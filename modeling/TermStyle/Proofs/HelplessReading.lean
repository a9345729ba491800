import TermStyle.Proofs.FlagWalks
import TermStyle.Proofs.WordRoles

/-! Readings without a flag for help. What ends such a reading early is a complaint: help is shown only where a flag that is
for it is used, and a reading uses no flags but those of its grammar. -/

namespace TermStyle.Proofs.HelplessReading
open CommandLine Reading ExceptSteps FlagValues WordRoles

/-- The result is none, or is a complaint, but no wish for help. -/
def Helpless (result : Except Halt α) : Prop := result ≠ .error Halt.help

section Results

theorem helpless_ok (value : α) : Helpless (.ok value) := by simp [Helpless]

theorem helpless_refused (message : String) : Helpless (.error (.refused message) : Except Halt α) := by simp [Helpless]

theorem helpless_bind {first : Except Halt α} {next : α → Except Halt β} (helpless : Helpless first)
    (rest : ∀ value, first = .ok value → Helpless (next value)) : Helpless (first >>= next) := by
  cases first with
  | ok value => exact rest value rfl
  | error halt => exact fun same => helpless (congrArg Except.error (Except.error.inj same))

theorem helpless_map {result : Except Halt α} {change : α → β} (helpless : Helpless result) : Helpless (result.map change) := by
  cases result with
  | ok value => exact helpless_ok _
  | error halt => exact fun same => helpless (congrArg Except.error (Except.error.inj same))

end Results

variable {flags : List Flag} {flag : Flag} {state : State} {menu : Bool}

section Flags

theorem store_helpless (kind : Kind) (text : String) : Helpless (store state flag kind text) := by
  unfold store
  split
  · exact helpless_ok _
  · split
    · exact helpless_ok _
    · exact helpless_refused _

theorem act_helpless (other : flag.effect ≠ .help) : Helpless (act state flag) := by
  unfold act
  split
  next effect => exact absurd effect other
  · exact helpless_ok _
  · exact helpless_ok _

theorem cluster_helpless (flag : Flag) (short : Bool) (letters : List Char) : Helpless (cluster flags flag short letters) := by
  induction letters generalizing flag short with
  | nil =>
    unfold cluster
    split
    · exact helpless_ok _
    · exact helpless_refused _
  | cons c rest ih =>
    unfold cluster
    split
    · exact helpless_ok _
    · split
      · exact helpless_refused _
      · split
        · exact helpless_ok _
        · exact helpless_map (ih _ _)

variable (unaided : ∀ flag ∈ flags, flag.effect ≠ .help)

include unaided

theorem acts_helpless {used : List Flag} (members : ∀ flag ∈ used, flag ∈ flags) : Helpless (used.foldlM act state) := by
  induction used generalizing state with
  | nil => exact helpless_ok _
  | cons flag rest ih =>
    rw [List.foldlM_cons]
    refine helpless_bind (act_helpless (unaided flag (members flag (by simp)))) fun _ _ => ?_
    exact ih fun later member => members later (by simp [member])

theorem useFlag_helpless (member : flag ∈ flags) (name : String) (attached : Option String) :
    Helpless (useFlag flags state flag name attached) := by
  cases attached with
  | none => exact act_helpless (unaided flag member)
  | some text =>
    refine helpless_bind (cluster_helpless flag _ _) ?_
    rintro ⟨first, tail⟩ clustered
    obtain ⟨members, ends⟩ := cluster_mem member clustered
    refine helpless_bind (acts_helpless unaided members) fun _ _ => ?_
    cases ends with
    | flag last => exact act_helpless (unaided _ last)
    | value => exact store_helpless _ _

theorem walk_helpless {words : List Word} (known : ∀ word ∈ words, Known flags word) :
    Helpless (walk flags menu words state) := by
  induction words generalizing state with
  | nil =>
    unfold walk
    split
    · exact helpless_refused _
    · exact helpless_ok _
  | cons word words ih =>
    have own := known word (by simp)
    have rest {state : State} : Helpless (walk flags menu words state) := ih fun later member => known later (by simp [member])
    unfold walk
    split
    · exact helpless_bind (store_helpless _ _) fun _ _ => rest
    · exact helpless_refused _
    · exact rest
    next flag name attached free role =>
      exact helpless_bind (useFlag_helpless unaided (own flag name attached role) name attached) fun _ _ => rest
    · have either (alone : Bool) : Helpless (if menu && !alone then .ok (state, word :: words)
          else walk flags menu words { state with stretch := state.stretch ++ [word] }) := by
        split
        · exact helpless_ok _
        · exact rest
      exact either _

end Flags

theorem ofTexts_helpless {grammar : Grammar} (unaided : ∀ flag ∈ grammar.flags, flag.effect ≠ .help) (menu : Option Menu)
    (texts : List String) : Helpless (Reading.ofTexts grammar menu texts) := by
  refine helpless_bind ?_ fun words worded => ?_
  · cases Word.ofTexts grammar.flags texts with
    | error message => exact helpless_refused message
    | ok words => exact helpless_ok words
  · have known := ofTexts_known (mapError_ok_iff.mp worded)
    refine helpless_bind (walk_helpless unaided known) ?_
    rintro ⟨final, command⟩ _
    refine helpless_bind ?_ fun _ _ => helpless_ok _
    unfold required
    split
    · exact helpless_ok _
    · exact helpless_refused _

/-- Where no command can follow either, what stops the whole reading is a complaint. -/
theorem parse_helpless {grammar : Grammar} (unaided : ∀ flag ∈ grammar.flags, flag.effect ≠ .help) (texts : List String)
    (help : String) : (Program.leaf grammar).parse texts ≠ .error (.help help) := by
  have own := ofTexts_helpless unaided none texts
  intro stopped
  rw [CommandLine.Tree.parse, Program.leaf, CommandLine.Tree.read] at stopped
  cases read : Reading.ofTexts grammar none texts with
  | ok result =>
    rw [read] at stopped
    change (if result.extras.isEmpty then _ else Except.error (Stop.refusal _ _) : Except Stop Parsed) = _ at stopped
    split at stopped <;> cases stopped
  | error halt =>
    rw [read] at own stopped
    cases halt with
    | help => exact own rfl
    | refused message => cases stopped

theorem preliminary_helpless (columns : Int) (words : List String) (help : String) :
    (Program.preliminary columns).parse words ≠ .error (.help help) := by
  have unaided : ∀ flag ∈ Program.globalFlags, flag.effect ≠ .help := by decide
  exact parse_helpless unaided words help

end TermStyle.Proofs.HelplessReading
