import TermStyle.CommandLine.Program
import TermStyle.Proofs.TierGating
import TermStyle.Proofs.UnescapedText

/-! Help without sequences. Where the tier is none, nothing is emphasised, so the help of the program and of every command
of it is laid out from plain texts alone, at whatever width. -/

namespace TermStyle.Proofs.PlainHelp
open Text CommandLine UnescapedText

def kindTexts : Kind → List String
  | .word choices | .capitals choices => choices
  | .text | .number _ => []

def effectTexts : Effect → List String
  | .store kind mark => mark :: kindTexts kind
  | .help | .switch => []

def flagTexts (flag : Flag) : List String :=
  flag.names ++ effectTexts flag.effect ++ flag.help.toList ++ [flag.default.display]

def operandTexts (operand : Operand) : List String := [operand.name, operand.help, operand.default.display]

def menuTexts (menu : Menu) : List String := menu.mark :: menu.help.toList

def grammarTexts (grammar : Grammar) : List String :=
  grammar.program :: grammar.summary :: grammar.description.toList ++ grammar.flags.flatMap flagTexts ++
    grammar.operands.flatMap operandTexts

def nodeTexts (grammar : Grammar) (menu : Option Menu) : List String := grammarTexts grammar ++ menu.toList.flatMap menuTexts

/-- A layout that emphasises nothing. -/
def Layout.Dull (layout : Layout) : Prop := ∀ tier ∈ layout.tier, tier = .none

mutual
/-- A grammar of plain texts, with commands of such grammars. -/
inductive Clear : CommandLine.Tree → Prop
  | node {grammar : Grammar} {menu : Option Menu} {branches : List (String × CommandLine.Tree)} (dull : Layout.Dull grammar.layout)
      (own : ∀ text ∈ nodeTexts grammar menu, Unescaped text) (below : AllClear branches) : Clear (.node grammar menu branches)

inductive AllClear : List (String × CommandLine.Tree) → Prop
  | nil : AllClear []
  | cons {name : String} {tree : CommandLine.Tree} {branches : List (String × CommandLine.Tree)} (named : Unescaped name)
      (own : Clear tree) (more : AllClear branches) : AllClear ((name, tree) :: branches)
end

section Emphasis

/-- No attribute shows at the lowest tier. -/
theorem front_none (directives : String) : Emphasis.front directives .none = "" := by
  have bare : (Compile.text directives Tier.none.level).value = .ok "" := TierGating.text_hidden (Int.le_refl 0) directives
  rw [Emphasis.front, bare]
  rfl

theorem styled_none (directives text : String) : Emphasis.styled directives text .none = text := by
  rw [Emphasis.styled, front_none]
  rfl

theorem heading_none (given : Wording) : Section.heading .none given = given := by
  rw [Section.heading, front_none, if_pos (by simp)]

end Emphasis

section Rendering

variable {grammar : Grammar} {menu : Option Menu} {branches : List (String × CommandLine.Tree)}

theorem marked_unescaped {flag : Flag} (each : ∀ text ∈ flagTexts flag, Unescaped text) {name : String}
    (named : Unescaped name) : Unescaped (flag.marked name) := by
  unfold Flag.marked
  unfold Flag.mark?
  split
  next kind mark effect =>
    have own := each mark (by simp [flagTexts, effect, effectTexts])
    simp [named, own, show Unescaped " " by decide]
  · simp [named]

theorem flag_own (own : ∀ text ∈ nodeTexts grammar menu, Unescaped text) {flag : Flag} (member : flag ∈ grammar.flags) :
    ∀ text ∈ flagTexts flag, Unescaped text := by
  intro text inside
  have deep : text ∈ grammar.flags.flatMap flagTexts := List.mem_flatMap.mpr ⟨flag, member, inside⟩
  exact own text (by simp [nodeTexts, grammarTexts, deep])

theorem operand_own (own : ∀ text ∈ nodeTexts grammar menu, Unescaped text) {operand : Operand}
    (member : operand ∈ grammar.operands) : ∀ text ∈ operandTexts operand, Unescaped text := by
  intro text inside
  have deep : text ∈ grammar.operands.flatMap operandTexts := List.mem_flatMap.mpr ⟨operand, member, inside⟩
  exact own text (by simp [nodeTexts, grammarTexts, deep])

theorem menu_own {choice : Menu} (own : ∀ text ∈ nodeTexts grammar (some choice), Unescaped text) :
    ∀ text ∈ menuTexts choice, Unescaped text := fun text inside => own text (by simp [nodeTexts, inside])

theorem flagPart_unescaped {flag : Flag} (each : ∀ text ∈ flagTexts flag, Unescaped text) : Unescaped (Usage.flagPart flag) := by
  have first : Unescaped (flag.names.head?.getD "") := by
    cases names : flag.names with
    | nil => decide
    | cons name others => exact each name (by simp [flagTexts, names])
  simp [Usage.flagPart, marked_unescaped each first, show Unescaped "[" by decide, show Unescaped "]" by decide]

theorem operandPart_unescaped {operand : Operand} (named : Unescaped operand.name) : Unescaped (Usage.operandPart operand) := by
  unfold Usage.operandPart
  split
  · exact named
  · simp [named, show Unescaped "[" by decide, show Unescaped "]" by decide]
  · simp [named, show Unescaped "[" by decide, show Unescaped " ...]" by decide]

theorem spread_unescaped {width : Int} {program : String} {flags others : List String} (named : Unescaped program)
    (flagged : ∀ part ∈ flags, Unescaped part) (rest : ∀ part ∈ others, Unescaped part) :
    ∀ line ∈ Usage.spread width program flags others, Unescaped line := by
  have indented (count : Nat) {lines : List String} (each : ∀ line ∈ lines, Unescaped line) :
      ∀ line ∈ lines.map (Usage.spaces count ++ ·), Unescaped line := by
    intro line member
    obtain ⟨inner, inside, rfl⟩ := List.mem_map.mp member
    simp [each inner inside, unescaped_spaces]
  have both : ∀ part ∈ flags ++ others, Unescaped part := fun part member =>
    (List.mem_append.mp member).elim (flagged part) (rest part)
  have apart (width : Int) : ∀ line ∈ Lines.fill width flags ++ Lines.fill width others, Unescaped line := fun line member =>
    (List.mem_append.mp member).elim (fill_unescaped flagged line) (fill_unescaped rest line)
  unfold Usage.spread
  dsimp only
  split
  · intro line member
    have each : ∀ line ∈ if flags.isEmpty then Lines.fillAfter (width - Usage.opening.length)
          (width - (Usage.opening.length + program.length + 1)) program others
        else Lines.fillAfter (width - Usage.opening.length) (width - (Usage.opening.length + program.length + 1)) program flags ++
          Lines.fill (width - (Usage.opening.length + program.length + 1)) others, Unescaped line := by
      split
      · exact fillAfter_unescaped named rest
      · exact fun line member => (List.mem_append.mp member).elim (fillAfter_unescaped named flagged line) (fill_unescaped rest line)
    rcases List.mem_append.mp member with front | back
    · exact each line (List.mem_of_mem_take front)
    · exact indented _ (fun line inside => each line (List.mem_of_mem_drop inside)) line back
  · intro line member
    rcases List.mem_cons.mp member with rfl | below
    · exact named
    · refine indented _ ?_ line below
      split
      · exact apart _
      · exact fill_unescaped both

theorem usage_unescaped (own : ∀ text ∈ nodeTexts grammar menu, Unescaped text) : Unescaped (Usage.render grammar menu) := by
  have named : Unescaped grammar.program := own _ (by simp [nodeTexts, grammarTexts])
  have flagged : ∀ part ∈ grammar.flags.map Usage.flagPart, Unescaped part := by
    intro part member
    obtain ⟨flag, inside, rfl⟩ := List.mem_map.mp member
    exact flagPart_unescaped (flag_own own inside)
  have rest : ∀ part ∈ grammar.operands.map Usage.operandPart ++ Usage.menuParts menu, Unescaped part := by
    intro part member
    rcases List.mem_append.mp member with ofOperand | ofMenu
    · obtain ⟨operand, inside, rfl⟩ := List.mem_map.mp ofOperand
      exact operandPart_unescaped (operand_own own inside _ (by simp [operandTexts]))
    · cases menu with
      | none => cases ofMenu
      | some choice =>
        simp only [Usage.menuParts, List.mem_cons, List.not_mem_nil, or_false] at ofMenu
        rcases ofMenu with rfl | rfl
        · exact menu_own own _ (by simp [menuTexts])
        · decide
  have opening : Unescaped Usage.opening := by decide
  unfold Usage.render
  dsimp only
  split
  · refine unescaped_append.mpr ⟨opening, unescaped_intercalate (by decide) ?_⟩
    intro part member
    rcases List.mem_cons.mp member with rfl | member
    · exact named
    · rcases List.mem_append.mp member with front | back
      · exact flagged part front
      · exact rest part back
  · exact unescaped_append.mpr ⟨opening, unescaped_intercalate (by decide) (spread_unescaped named flagged rest)⟩

theorem explained_unescaped {layout : Layout} {help : Option String} {default : Option Value}
    (helped : ∀ text ∈ help, Unescaped text) (shown : ∀ value ∈ default, Unescaped value.display) :
    ∀ text ∈ Help.explained layout help default, Unescaped text := by
  intro text member
  obtain ⟨own, given, rfl⟩ := Option.map_eq_some_iff.mp member
  have plain := helped own given
  split
  next _ value _ =>
    have display := shown value rfl
    simp [Help.defaultText, plain, display, show Unescaped " (default: " by decide, show Unescaped ")" by decide]
  · exact plain

def RowPlain (row : Help.Row) : Prop := Unescaped row.head ∧ ∀ text ∈ row.help, Unescaped text

theorem flagRow_plain {flag : Flag} (each : ∀ text ∈ flagTexts flag, Unescaped text) (layout : Layout) :
    RowPlain (Help.flagRow layout flag) := by
  constructor
  · refine unescaped_intercalate (by decide) fun part member => ?_
    obtain ⟨name, inside, rfl⟩ := List.mem_map.mp member
    exact marked_unescaped each (each name (by simp [flagTexts, inside]))
  · refine explained_unescaped (fun text given => each text ?_) fun value given => ?_
    · simp [flagTexts, Option.mem_def.mp given]
    · split at given
      · cases given
      · cases given
        exact each _ (by simp [flagTexts])

theorem operandRow_plain {operand : Operand} (each : ∀ text ∈ operandTexts operand, Unescaped text) (layout : Layout) :
    RowPlain (Help.operandRow layout operand) := by
  have named := each operand.name (by simp [operandTexts])
  have helped : ∀ text ∈ some operand.help, Unescaped text := by
    rintro _ ⟨⟩
    exact each operand.help (by simp [operandTexts])
  refine ⟨named, explained_unescaped helped fun value given => ?_⟩
  split at given
  · cases given
  · cases given
    exact each _ (by simp [operandTexts])

theorem rowText_unescaped {layout : Layout} {column : Int} {row : Help.Row} (plain : RowPlain row) :
    Unescaped (Help.rowText layout column row) := by
  obtain ⟨headed, helped⟩ := plain
  have explaining : ∀ line ∈ (row.help.map (Help.explanation layout column)).getD [], Unescaped line := by
    cases help : row.help with
    | none => simp
    | some text =>
      have own := helped text help
      rw [Option.map_some, Option.getD_some]
      unfold Help.explanation
      split
      · simpa using own
      · refine fill_unescaped fun word member => ?_
        obtain ⟨run, inside, rfl⟩ := List.mem_map.mp member
        exact unescaped_ofList.mpr (fields_unescaped own run inside)
  have feed : Unescaped "\n" := by decide
  have gap : Unescaped "  " := by decide
  unfold Help.rowText
  dsimp only
  split
  · simp [headed, unescaped_spaces, feed]
  next first rest same =>
    rw [same] at explaining
    have opening := explaining first (by simp)
    have below : Unescaped (String.join (rest.map (Usage.spaces column.toNat ++ · ++ "\n"))) := by
      refine unescaped_join fun text member => ?_
      obtain ⟨line, inside, rfl⟩ := List.mem_map.mp member
      simp [explaining line (by simp [inside]), unescaped_spaces, feed]
    split <;> simp [headed, unescaped_spaces, feed, gap, opening, below]

theorem table_unescaped {layout : Layout} (dull : Layout.Dull layout) {column : Int} {title : String} (titled : Unescaped title)
    {rows : List Help.Row} (plain : ∀ row ∈ rows, RowPlain row) : Unescaped (Help.table layout column title rows) := by
  refine UnescapedText.render_unescaped ?_ (unescaped_join fun text member => ?_)
  · intro text given
    cases given
    split
    next tier same =>
      rw [dull tier same, heading_none]
      exact titled
    · exact titled
  · obtain ⟨row, inside, rfl⟩ := List.mem_map.mp member
    exact rowText_unescaped (plain row inside)

theorem branches_named {branches : List (String × CommandLine.Tree)} (below : AllClear branches) :
    ∀ branch ∈ branches, Unescaped branch.1 ∧ Unescaped branch.2.grammar.summary := by
  induction branches with
  | nil => simp
  | cons branch rest ih =>
    cases below with
    | cons named own more =>
      intro found member
      rcases List.mem_cons.mp member with rfl | later
      · cases own with
        | @node grammar _ _ _ own _ => exact ⟨named, own grammar.summary (by simp [nodeTexts, grammarTexts])⟩
      · exact ih more found later

theorem menuRows_plain (own : ∀ text ∈ nodeTexts grammar menu, Unescaped text) (below : AllClear branches) :
    ∀ row ∈ Help.menuRows menu branches, RowPlain row := by
  cases menu with
  | none => simp [Help.menuRows]
  | some choice =>
    intro row member
    rcases List.mem_cons.mp member with rfl | listed
    · have helped : ∀ text ∈ choice.help, Unescaped text := fun text given =>
        menu_own own text (by simp [menuTexts, Option.mem_def.mp given])
      exact ⟨menu_own own _ (by simp [menuTexts]), helped⟩
    · obtain ⟨branch, inside, rfl⟩ := List.mem_map.mp listed
      obtain ⟨named, summary⟩ := branches_named below branch inside
      refine ⟨named, fun text given => ?_⟩
      cases given
      exact summary

theorem help_unescaped {tree : CommandLine.Tree} (clear : Clear tree) : Unescaped (Help.render tree) := by
  cases clear with
  | @node grammar menu branches dull own below =>
    have rows : ∀ row ∈ grammar.operands.map (Help.operandRow grammar.layout) ++ Help.menuRows menu branches, RowPlain row := by
      intro row member
      rcases List.mem_append.mp member with ofOperand | ofMenu
      · obtain ⟨operand, inside, rfl⟩ := List.mem_map.mp ofOperand
        exact operandRow_plain (operand_own own inside) _
      · exact menuRows_plain own below row ofMenu
    have flags : ∀ row ∈ grammar.flags.map (Help.flagRow grammar.layout), RowPlain row := by
      intro row member
      obtain ⟨flag, inside, rfl⟩ := List.mem_map.mp member
      exact flagRow_plain (flag_own own inside) _
    have described : Unescaped ((grammar.description.map (Section.paragraph 0)).getD "") := by
      cases description : grammar.description with
      | none => decide
      | some text =>
        have plain := own text (by simp [nodeTexts, grammarTexts, description])
        simp [Section.paragraph, indented_unescaped plain, show Unescaped "\n\n" by decide]
    have gap : Unescaped "\n\n" := by decide
    refine tidied_unescaped ?_
    simp only [unescaped_append]
    exact ⟨⟨⟨⟨usage_unescaped own, gap⟩, described⟩, table_unescaped dull (by decide) rows⟩, table_unescaped dull (by decide) flags⟩

end Rendering

section Reading

mutual
/-- The help that a reading asks for is that of the grammar or of one of its commands. -/
theorem read_help (tree : CommandLine.Tree) (clear : Clear tree) {texts : List String} {text : String}
    (halted : tree.read texts = .error (.help text)) : Unescaped text := by
  match tree, clear with
  | .node grammar menu branches, .node dull own below =>
    rw [CommandLine.Tree.read] at halted
    split at halted
    next halt _ =>
      cases halt with
      | help =>
        cases halted
        exact help_unescaped (.node dull own below)
      | refused message => cases halted
    · split at halted
      next choice name rest _ =>
        split at halted
        · cases halted
        next stop branch =>
          cases halted
          exact readBranch_help branches below branch
        · cases halted
      · cases halted
termination_by structural tree

theorem readBranch_help (branches : List (String × CommandLine.Tree)) (clear : AllClear branches) {name : String}
    {texts : List String} {text : String} (halted : CommandLine.Tree.readBranch branches name texts = some (.error (.help text))) :
    Unescaped text := by
  match branches, clear with
  | [], _ => cases halted
  | (branch, tree) :: branches, .cons _ own more =>
    rw [CommandLine.Tree.readBranch] at halted
    split at halted
    · exact read_help tree own (Option.some.inj halted)
    · exact readBranch_help branches more halted
termination_by structural branches
end

theorem parse_help {tree : CommandLine.Tree} (clear : Clear tree) {texts : List String} {text : String}
    (halted : tree.parse texts = .error (.help text)) : Unescaped text := by
  cases read : tree.read texts with
  | error stop =>
    rw [CommandLine.Tree.parse, read] at halted
    cases halted
    exact read_help tree clear read
  | ok parsed =>
    rw [CommandLine.Tree.parse, read] at halted
    change (if parsed.extras.isEmpty then _ else _) = _ at halted
    split at halted <;> cases halted

end Reading

section Program

theorem rich_dull : Layout.Dull (.rich .none) := by
  rintro _ ⟨⟩
  rfl

theorem described_unescaped {lines : List String} (each : ∀ line ∈ lines, Unescaped line) :
    Unescaped (Program.described lines) := by
  have body : Unescaped ("\n".intercalate lines) := unescaped_intercalate (by decide) each
  simp [Program.described, body, show Unescaped "\n" by decide, show Unescaped "\n        " by decide]

/-- Only descriptions are emphasised in places, so the other texts are looked at by themselves. -/
theorem node_clear {grammar : Grammar} {menu : Option Menu} {branches : List (String × CommandLine.Tree)}
    (dull : Layout.Dull grammar.layout) (described : Unescaped (grammar.description.getD ""))
    (others : ∀ text ∈ nodeTexts { grammar with description := none } menu, Unescaped text) (below : AllClear branches) :
    Clear (.node grammar menu branches) := by
  refine .node dull (fun text member => ?_) below
  by_cases own : grammar.description = some text
  · simpa [own] using described
  · refine others text ?_
    simp only [nodeTexts, grammarTexts, List.mem_append, List.mem_cons, Option.mem_toList, own, or_false,
      Option.toList_none, List.not_mem_nil] at member ⊢
    exact member

abbrev Fixed (tree : CommandLine.Tree) : Prop :=
  ∀ text ∈ nodeTexts { tree.grammar with description := none } tree.menu, Unescaped text

/-- The texts of a grammar do not depend on the width, so that any will do. -/
theorem fixed_texts : (Fixed (Program.showTree 0) ∧ Fixed (Program.initTree 0) ∧ Fixed (Program.settingsTree .none 0)) ∧
    (Fixed (Program.bothTree .none) ∧ Fixed (Program.formatTree .none) ∧ Fixed (Program.applyTree .none) ∧
      Fixed (Program.detectTree .none) ∧ Fixed (Program.attributesTree .none)) ∧
    Fixed (Program.tree .none 0) ∧ Fixed (Program.preliminary 0) := by decide +kernel

theorem settings_clear (columns : Int) : AllClear (Program.settingsTree .none columns).branches := by
  have flat : Layout.Dull (.plain columns) := nofun
  obtain ⟨⟨shown, made, -⟩, -⟩ := fixed_texts
  exact .cons (by decide) (.node flat shown .nil) (.cons (by decide) (.node flat made .nil) .nil)

theorem bothTree_clear : Clear (Program.bothTree .none) := by
  obtain ⟨-, ⟨fixed, -⟩, -⟩ := fixed_texts
  refine node_clear rich_dull (described_unescaped ?_) fixed .nil
  simp only [List.forall_mem_cons, Program.examples, Emphasis.subheader, Emphasis.sample, styled_none, unescaped_append]
  and_intros <;> first | exact unescaped_ofList.mpr (by decide) | exact List.forall_mem_nil _

theorem formatTree_clear : Clear (Program.formatTree .none) := by
  obtain ⟨-, ⟨-, fixed, -⟩, -⟩ := fixed_texts
  refine node_clear rich_dull (described_unescaped ?_) fixed .nil
  simp only [List.forall_mem_cons, Program.examples, Emphasis.subheader, styled_none]
  and_intros <;> first | exact unescaped_ofList.mpr (by decide) | exact List.forall_mem_nil _

theorem applyTree_clear : Clear (Program.applyTree .none) := by
  obtain ⟨-, ⟨-, -, fixed, -⟩, -⟩ := fixed_texts
  refine node_clear rich_dull (described_unescaped ?_) fixed .nil
  simp only [List.forall_mem_cons, Program.examples, Emphasis.subheader, styled_none]
  and_intros <;> first | exact unescaped_ofList.mpr (by decide) | exact List.forall_mem_nil _

theorem detectTree_clear : Clear (Program.detectTree .none) := by
  obtain ⟨-, ⟨-, -, -, fixed, -⟩, -⟩ := fixed_texts
  refine node_clear rich_dull (described_unescaped ?_) fixed .nil
  simp only [List.forall_mem_cons]
  and_intros <;> first | exact unescaped_ofList.mpr (by decide) | exact List.forall_mem_nil _

theorem settingsTree_clear (columns : Int) : Clear (Program.settingsTree .none columns) := by
  obtain ⟨⟨-, -, fixed⟩, -⟩ := fixed_texts
  refine node_clear rich_dull (described_unescaped ?_) fixed (settings_clear columns)
  simp only [List.forall_mem_cons, Program.examples, Emphasis.subheader, Emphasis.sample, styled_none, unescaped_append]
  and_intros <;> first | exact unescaped_ofList.mpr (by decide) | exact List.forall_mem_nil _

theorem tree_clear (columns : Int) : Clear (Program.tree .none columns) := by
  obtain ⟨-, ⟨-, -, -, -, listed⟩, own, -⟩ := fixed_texts
  have attributes : Clear (Program.attributesTree .none) :=
    node_clear rich_dull (unescaped_ofList.mpr (by decide)) listed .nil
  have below : AllClear (Program.branches .none columns) :=
    .cons (by decide) bothTree_clear <| .cons (by decide) formatTree_clear <| .cons (by decide) applyTree_clear <|
      .cons (by decide) detectTree_clear <| .cons (by decide) attributes <| .cons (by decide) (settingsTree_clear columns) .nil
  refine node_clear rich_dull (described_unescaped ?_) own below
  simp only [List.forall_mem_cons, Program.examples, Emphasis.subheader, Emphasis.sample, styled_none, unescaped_append]
  and_intros <;> first | exact unescaped_ofList.mpr (by decide) | exact List.forall_mem_nil _

theorem preliminary_clear (columns : Int) : Clear (Program.preliminary columns) := by
  obtain ⟨-, -, -, fixed⟩ := fixed_texts
  exact .node nofun fixed .nil

end Program

end TermStyle.Proofs.PlainHelp
