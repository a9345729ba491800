import TermStyle.Proofs.TwoReadings

/-! What a reading of a grammar depends on. Trees that differ in texts and layouts alone read the same words alike, so the
program's own grammar can be read for any tier and width. The commands that a reading comes to are those of the tree. -/

namespace TermStyle.Proofs.TreeShape
open CommandLine Reading TwoReadings

mutual
/-- The same flags, operands, menus and commands. -/
inductive Alike : CommandLine.Tree → CommandLine.Tree → Prop
  | node {first second : Grammar} {menu : Option Menu} {branches others : List (String × CommandLine.Tree)}
      (flags : first.flags = second.flags) (operands : first.operands = second.operands) (below : AllAlike branches others) :
      Alike (.node first menu branches) (.node second menu others)

inductive AllAlike : List (String × CommandLine.Tree) → List (String × CommandLine.Tree) → Prop
  | nil : AllAlike [] []
  | cons {name : String} {first second : CommandLine.Tree} {branches others : List (String × CommandLine.Tree)}
      (tree : Alike first second) (more : AllAlike branches others) : AllAlike ((name, first) :: branches) ((name, second) :: others)
end

theorem leaf_alike {first second : Grammar} (flags : first.flags = second.flags) (operands : first.operands = second.operands) :
    Alike (Program.leaf first) (Program.leaf second) := .node flags operands .nil

theorem ofTexts_alike {first second : Grammar} (flags : first.flags = second.flags) (operands : first.operands = second.operands)
    (menu : Option Menu) (texts : List String) : Reading.ofTexts first menu texts = Reading.ofTexts second menu texts := by
  simp only [Reading.ofTexts, Grammar.defaults, flags, operands]

mutual
theorem read_alike (tree : CommandLine.Tree) {other : CommandLine.Tree} (alike : Alike tree other) {texts : List String}
    {parsed : Parsed} (accepted : tree.read texts = .ok parsed) : other.read texts = .ok parsed := by
  match tree, other, alike with
  | .node first menu branches, .node second _ others, .node flags operands below =>
    rw [CommandLine.Tree.read, ofTexts_alike flags operands] at accepted
    rw [CommandLine.Tree.read]
    cases read : Reading.ofTexts second menu texts with
    | error halt =>
      rw [read] at accepted
      cases accepted
    | ok result =>
      rw [read] at accepted
      dsimp only at accepted ⊢
      split at accepted
      next choice name rest _ =>
        split at accepted
        · cases accepted
        · cases accepted
        next found branch =>
          cases accepted
          rw [readBranch_alike branches below branch]
      · exact accepted
termination_by structural tree

theorem readBranch_alike (branches : List (String × CommandLine.Tree)) {others : List (String × CommandLine.Tree)}
    (alike : AllAlike branches others) {name : String} {texts : List String} {parsed : Parsed}
    (accepted : CommandLine.Tree.readBranch branches name texts = some (.ok parsed)) :
    CommandLine.Tree.readBranch others name texts = some (.ok parsed) := by
  match branches, others, alike with
  | [], [], .nil => exact accepted
  | (branch, tree) :: branches, (_, other) :: others, .cons same more =>
    rw [CommandLine.Tree.readBranch] at accepted ⊢
    split at accepted
    next chosen => rw [if_pos chosen, read_alike tree same (Option.some.inj accepted)]
    next passed => rw [if_neg passed, readBranch_alike branches more accepted]
termination_by structural branches
end

theorem command_alike (tier other : Tier) (name summary first second : String) (flags : List Flag) (operands : List Operand)
    (menu : Option Menu) {branches others : List (String × CommandLine.Tree)} (below : AllAlike branches others) :
    Alike (.node (Program.command tier name summary first flags operands) menu branches)
      (.node (Program.command other name summary second flags operands) menu others) := .node rfl rfl below

theorem branches_alike (tier other : Tier) (columns width : Int) :
    AllAlike (Program.branches tier columns) (Program.branches other width) := by
  have plain : AllAlike (Program.settingsTree tier columns).branches (Program.settingsTree other width).branches :=
    .cons (leaf_alike rfl rfl) (.cons (leaf_alike rfl rfl) .nil)
  have bare (name summary first second : String) (flags : List Flag) (operands : List Operand) :
      Alike (Program.leaf (Program.command tier name summary first flags operands))
        (Program.leaf (Program.command other name summary second flags operands)) :=
    command_alike tier other name summary first second flags operands none .nil
  exact .cons (bare _ _ _ _ _ _) <| .cons (bare _ _ _ _ _ _) <| .cons (bare _ _ _ _ _ _) <| .cons (bare _ _ _ _ _ _) <|
    .cons (bare _ _ _ _ _ _) <| .cons (command_alike tier other _ _ _ _ _ _ _ plain) .nil

mutual
/-- The ways of commands through a tree. -/
def paths : CommandLine.Tree → List (List String)
  | .node _ _ branches => [] :: branchPaths branches

def branchPaths : List (String × CommandLine.Tree) → List (List String)
  | [] => []
  | (name, tree) :: branches => (paths tree).map (name :: ·) ++ branchPaths branches
end

mutual
theorem read_paths (tree : CommandLine.Tree) {texts : List String} {parsed : Parsed} (accepted : tree.read texts = .ok parsed) :
    parsed.path ∈ paths tree := by
  match tree with
  | .node grammar menu branches =>
    rw [CommandLine.Tree.read] at accepted
    rw [paths]
    split at accepted
    · cases accepted
    · split at accepted
      next choice name rest _ =>
        split at accepted
        · cases accepted
        · cases accepted
        next found branch =>
          cases accepted
          exact List.mem_cons_of_mem _ (readBranch_paths branches branch)
      · cases accepted
        exact List.mem_cons_self
termination_by structural tree

theorem readBranch_paths (branches : List (String × CommandLine.Tree)) {name : String} {texts : List String} {parsed : Parsed}
    (accepted : CommandLine.Tree.readBranch branches name texts = some (.ok parsed)) :
    name :: parsed.path ∈ branchPaths branches := by
  match branches with
  | [] => cases accepted
  | (branch, tree) :: branches =>
    rw [CommandLine.Tree.readBranch] at accepted
    rw [branchPaths, List.mem_append]
    split at accepted
    next chosen =>
      subst chosen
      exact Or.inl (List.mem_map_of_mem (read_paths tree (Option.some.inj accepted)))
    · exact Or.inr (readBranch_paths branches accepted)
termination_by structural branches
end

/-- Whatever way a command line takes through the program's grammar, there is a command at its end. -/
theorem selected_command {tier : Tier} {columns : Int} {texts : List String} {parsed : Parsed}
    (accepted : (Program.tree tier columns).read texts = .ok parsed)
    (selected : parsed.path ≠ []) : ∃ command, Command.ofParsed? parsed = some command := by
  have listed := read_paths (Program.tree tier columns) accepted
  have ways : paths (Program.tree tier columns) = [[], ["both"], ["format"], ["apply"], ["detect"], ["attributes"],
    ["config"], ["config", "show"], ["config", "init"]] := rfl
  rw [ways] at listed
  simp only [List.mem_cons, List.not_mem_nil, or_false] at listed
  unfold Command.ofParsed?
  rcases listed with none | way | way | way | way | way | way | way | way
  · exact absurd none selected
  all_goals
    rw [way]
    exact ⟨_, rfl⟩

end TermStyle.Proofs.TreeShape
