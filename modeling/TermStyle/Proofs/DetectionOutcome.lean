import TermStyle.Detection
import TermStyle.Proofs.NumeralReading

/-! What detection comes to. Every rule answers with a tier in range, whatever the variables hold, and only one of
them can fail: it reads a number at the head of a version, which may have too many digits. -/

namespace TermStyle.Proofs.DetectionOutcome
open Text Detection NumeralReading

/-- The levels that tiers have. -/
def InRange (level : Int) : Prop := 0 ≤ level ∧ level ≤ 3

theorem level_inRange (tier : Tier) : InRange tier.level := by
  cases tier <;> simp [InRange, Tier.level]

theorem forcedFloor_inRange (env : Environment) : InRange (forcedFloor env) := by
  unfold forcedFloor
  split
  · simp [InRange]
  · split
    · exact level_inRange _
    · simp [InRange]

theorem ofLevel_returns {level : Int} (inside : InRange level) : Tier.ofLevel level = .ok (Tier.clamp level) := by
  have bounds : ¬ (level < 0 ∨ 3 < level) := by
    unfold InRange at inside
    omega
  rw [Tier.ofLevel, if_neg bounds]

private theorem answerIf_inRange {condition : Bool} {tier level : Int} (inside : InRange tier)
    (answered : answerIf condition tier = some level) : InRange level := by
  unfold answerIf at answered
  split at answered
  · exact Option.some.inj answered ▸ inside
  · cases answered

private theorem windowsTier?_inRange {version : Version} {level : Int} (answered : windowsTier? version = some level) :
    InRange level := by
  unfold windowsTier? at answered
  split at answered
  · cases answered
    split <;> simp [InRange]
  · cases answered

private theorem ciTier?_inRange {env : Environment} {level : Int} (answered : ciTier? env = some level) : InRange level := by
  unfold ciTier? at answered
  split at answered
  · cases answered
  · split at answered
    · cases answered
      simp [InRange]
    · split at answered
      · cases answered
        simp [InRange]
      · exact answerIf_inRange (by simp [InRange]) answered

private theorem teamcityTier_inRange (version : String) : InRange (teamcityTier version) := by
  unfold teamcityTier
  split <;> simp [InRange]

private theorem programTier?_inRange {program : String} {major level : Int}
    (answered : programTier? program major = some level) : InRange level := by
  unfold programTier? at answered
  split at answered
  · cases answered
    split <;> simp [InRange]
  · exact answerIf_inRange (by simp [InRange]) answered

/-- A rule makes up its own tier or passes the floor on, so a floor in range is all that is asked for. -/
theorem tier?_inRange {rule : Rule} {context : Context} {level : Int} (floor : InRange context.floor)
    (answered : rule.tier? context = .ok (some level)) : InRange level := by
  cases rule with
  | noColor | azurePipelines | colortermTruecolor | kitty | term256 | termBasic | colortermAny =>
    exact answerIf_inRange (by simp [InRange]) (Except.ok.inj answered)
  | dumbTerminal => exact answerIf_inRange floor (Except.ok.inj answered)
  | windowsBuild =>
    have found := Except.ok.inj answered
    split at found
    · obtain ⟨version, _, decided⟩ := Option.bind_eq_some_iff.mp found
      exact windowsTier?_inRange decided
    · cases found
  | ci => exact ciTier?_inRange (Except.ok.inj answered)
  | teamcity =>
    obtain ⟨version, _, rfl⟩ := Option.map_eq_some_iff.mp (Except.ok.inj answered)
    exact teamcityTier_inRange version
  | termProgram =>
    simp only [Rule.tier?] at answered
    split at answered
    · cases answered
    next program _ =>
      cases major : leadingNumber ((context.env.get? Variable.terminalProgramVersion).getD "") with
      | error error => simp [major, bind, Except.bind] at answered
      | ok number =>
        simp only [major, bind, Except.bind, pure, Except.pure, Except.ok.injEq] at answered
        exact programTier?_inRange answered

/-- The digits at the head of the version that the terminal program gives itself. -/
def versionDigits (env : Environment) : List Char :=
  ((env.get? Variable.terminalProgramVersion).getD "").toList.takeWhile Digit.isDigit

theorem leadingNumber_error_iff (text : String) (error : Numeral.Error) :
    leadingNumber text = .error error ↔ Numeral.digitLimit < (text.toList.takeWhile Digit.isDigit).length ∧
      error = .tooLong (text.toList.takeWhile Digit.isDigit).length := by
  simp only [leadingNumber]
  split
  next empty => simp [List.isEmpty_iff.mp empty]
  next filled =>
    have run : IsRun (text.toList.takeWhile Digit.isDigit) :=
      ⟨fun none => filled (List.isEmpty_iff.mpr none), List.all_eq_true.mp List.all_takeWhile⟩
    exact read_run_error_iff run error

/-- The rule for terminal programs is the only one that can fail, even for programs that it knows nothing of. -/
theorem tier?_error_iff (rule : Rule) (context : Context) (error : Numeral.Error) :
    rule.tier? context = .error error ↔ rule = .termProgram ∧
      context.env.isDefined Variable.terminalProgram = true ∧ Numeral.digitLimit < (versionDigits context.env).length ∧
      error = .tooLong (versionDigits context.env).length := by
  cases rule with
  | termProgram =>
    have refused := leadingNumber_error_iff ((context.env.get? Variable.terminalProgramVersion).getD "") error
    simp only [Rule.tier?, Environment.isDefined, true_and, versionDigits, ← refused]
    cases context.env.get? Variable.terminalProgram with
    | none => simp
    | some program =>
      cases leadingNumber ((context.env.get? Variable.terminalProgramVersion).getD "") <;>
        simp [bind, Except.bind, pure, Except.pure]
  | _ => simp [Rule.tier?]

def earlier : List Rule := Rule.all.takeWhile (· != .termProgram)

/-- Detection gets as far as the terminal program, since no earlier rule decides, and cannot read its version. -/
structure Stuck (context : Context) : Prop where
  undecided : ∀ rule ∈ earlier, rule.tier? context = .ok none
  named : context.env.isDefined Variable.terminalProgram = true
  long : Numeral.digitLimit < (versionDigits context.env).length

theorem walk_step {context : Context} {rule : Rule} (rest : List Rule) (floor : InRange context.floor)
    {answer : Option Int} (answered : rule.tier? context = .ok answer) :
    (answer = none ∧ walk context (rule :: rest) = walk context rest) ∨
      ∃ finding, walk context (rule :: rest) = .ok finding := by
  cases answer with
  | none => exact Or.inl ⟨rfl, by rw [walk, answered]⟩
  | some level =>
    right
    rw [walk, answered]
    simp only [ofLevel_returns (tier?_inRange floor answered)]
    exact ⟨_, rfl⟩

theorem walk_returns {context : Context} (floor : InRange context.floor) {rules : List Rule}
    (readable : ∀ rule ∈ rules, ∃ answer, rule.tier? context = .ok answer) : ∃ finding, walk context rules = .ok finding := by
  induction rules with
  | nil =>
    rw [walk, ofLevel_returns floor]
    exact ⟨_, rfl⟩
  | cons rule rest ih =>
    obtain ⟨answer, answered⟩ := readable rule (by simp)
    rcases walk_step rest floor answered with ⟨_, next⟩ | decided
    · rw [next]
      exact ih fun later member => readable later (by simp [member])
    · exact decided

theorem walk_silent {context : Context} {front : List Rule} (silent : ∀ rule ∈ front, rule.tier? context = .ok none)
    (back : List Rule) : walk context (front ++ back) = walk context back := by
  induction front with
  | nil => rfl
  | cons rule rest ih =>
    rw [List.cons_append, walk, silent rule (by simp)]
    exact ih fun later member => silent later (by simp [member])

/-- Once a rule decides, it does not matter whether one behind it would fail. -/
theorem walk_decided {context : Context} (floor : InRange context.floor) {front : List Rule}
    (readable : ∀ rule ∈ front, ∃ answer, rule.tier? context = .ok answer)
    (answers : ¬ ∀ rule ∈ front, rule.tier? context = .ok none) (back : List Rule) :
    ∃ finding, walk context (front ++ back) = .ok finding := by
  induction front with
  | nil => simp at answers
  | cons rule rest ih =>
    obtain ⟨answer, answered⟩ := readable rule (by simp)
    rcases walk_step (rest ++ back) floor answered with ⟨rfl, next⟩ | decided
    · rw [List.cons_append, next]
      apply ih fun later member => readable later (by simp [member])
      intro silent
      apply answers
      intro later member
      rcases List.mem_cons.mp member with rfl | deeper
      · exact answered
      · exact silent later deeper
    · exact decided

def later : List Rule := [.term256, .termBasic, .colortermAny]

private theorem all_split : Rule.all = earlier ++ .termProgram :: later := by rfl

private theorem readable_of_ne {context : Context} {rule : Rule} (other : rule ≠ .termProgram) :
    ∃ answer, rule.tier? context = .ok answer := by
  cases outcome : rule.tier? context with
  | ok answer => exact ⟨answer, rfl⟩
  | error error => exact absurd ((tier?_error_iff rule context error).mp outcome).1 other

theorem evaluate_stuck {context : Context} (stuck : Stuck context) :
    evaluate context = .error (.numeral (.tooLong (versionDigits context.env).length)) := by
  have failed := (tier?_error_iff .termProgram context _).mpr ⟨rfl, stuck.named, stuck.long, rfl⟩
  rw [evaluate, all_split, walk_silent stuck.undecided, walk, failed]

theorem evaluate_returns {context : Context} (floor : InRange context.floor) (free : ¬ Stuck context) :
    ∃ finding, evaluate context = .ok finding := by
  have front : ∀ rule ∈ earlier, ∃ answer, rule.tier? context = .ok answer := by
    intro rule member
    exact readable_of_ne ((by decide : ∀ rule ∈ earlier, rule ≠ .termProgram) rule member)
  have back : ∀ rule ∈ later, ∃ answer, rule.tier? context = .ok answer := by
    intro rule member
    exact readable_of_ne ((by decide : ∀ rule ∈ later, rule ≠ .termProgram) rule member)
  rw [evaluate, all_split]
  cases outcome : Rule.termProgram.tier? context with
  | ok answer =>
    apply walk_returns floor
    intro rule member
    rcases List.mem_append.mp member with ahead | rest
    · exact front rule ahead
    · rcases List.mem_cons.mp rest with rfl | behind
      · exact ⟨answer, outcome⟩
      · exact back rule behind
  | error error =>
    obtain ⟨_, named, long, _⟩ := (tier?_error_iff .termProgram context error).mp outcome
    exact walk_decided floor front (fun undecided => free ⟨undecided, named, long⟩) _

theorem ruleName_listed (finding : Finding) : finding.ruleName ∈ "fallback" :: Rule.all.map Rule.name := by
  cases found : finding.rule with
  | none => simp [Finding.ruleName, found]
  | some rule =>
    have listed : rule ∈ Rule.all := by cases rule <;> decide
    simp only [Finding.ruleName, found, Option.map_some, Option.getD_some]
    exact List.mem_cons_of_mem _ (List.mem_map_of_mem listed)

theorem explain_stuck {env : Environment} {onWindows : Bool} {version : Option Version}
    (stuck : Stuck (.ofEnvironment env onWindows version)) :
    (explain env onWindows version).value = .error (.numeral (.tooLong (versionDigits env).length)) := by
  simp only [explain, evaluate_stuck stuck]
  rfl

/-- Detection returns exactly when it does not get stuck. It then finds a tier in range, by a rule on the list or
by the floor, and the tier alone is the same one. Stuck, both fail with the number of digits. -/
theorem explain_returns_iff (env : Environment) (onWindows : Bool) (version : Option Version) :
    ((∃ finding, (explain env onWindows version).value = .ok finding ∧ InRange finding.tier.level ∧
        finding.ruleName ∈ "fallback" :: Rule.all.map Rule.name ∧
        (detect env onWindows version).value = .ok finding.tier) ↔
      ¬ Stuck (.ofEnvironment env onWindows version)) ∧
    (Stuck (.ofEnvironment env onWindows version) →
      (explain env onWindows version).value = .error (.numeral (.tooLong (versionDigits env).length)) ∧
      (detect env onWindows version).value = .error (.numeral (.tooLong (versionDigits env).length))) := by
  refine ⟨⟨?_, ?_⟩, fun stuck => ⟨explain_stuck stuck, by simp only [detect, explain_stuck stuck, Except.map]⟩⟩
  · rintro ⟨finding, returned, _⟩ stuck
    rw [explain_stuck stuck] at returned
    cases returned
  · intro free
    obtain ⟨finding, found⟩ := evaluate_returns (forcedFloor_inRange env) free
    have returned : (explain env onWindows version).value = .ok finding := by simp only [explain, found]
    exact ⟨finding, returned, level_inRange _, ruleName_listed _, by simp only [detect, returned, Except.map]⟩

def terminal (version : String) : Environment :=
  ⟨[(Variable.terminalProgram, itermName), (Variable.terminalProgramVersion, version)]⟩

private theorem terminal_undecided (version : String) {rule : Rule} (member : rule ∈ earlier) :
    rule.tier? (.ofEnvironment (terminal version) false none) = .ok none := by
  cases rule with
  | termProgram | term256 | termBasic | colortermAny => exact absurd member (by decide)
  | _ => rfl

/-- For any version, so that nothing has to be computed on the long one. -/
private theorem terminal_stuck {version : String} (digits : ∀ c ∈ version.toList, Digit.isDigit c = true)
    (long : Numeral.digitLimit < version.toList.length) : Stuck (.ofEnvironment (terminal version) false none) := by
  refine ⟨fun rule member => terminal_undecided version member, rfl, ?_⟩
  change Numeral.digitLimit < (version.toList.takeWhile Digit.isDigit).length
  rw [List.takeWhile_eq_self_iff.mpr digits]
  exact long

/-- Not every environment is detected: one digit too many is enough. -/
theorem ones_version_fails : ¬ ∃ finding, (explain (terminal ones) false none).value = .ok finding := by
  rintro ⟨finding, returned⟩
  have digits : ∀ c ∈ ones.toList, Digit.isDigit c = true := ones_all (by decide)
  rw [explain_stuck (terminal_stuck digits ones_long)] at returned
  cases returned

end TermStyle.Proofs.DetectionOutcome
