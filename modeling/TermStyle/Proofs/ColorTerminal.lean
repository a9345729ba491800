import TermStyle.Proofs.ForcedFloor

/-! What a better colour terminal can change. Two rules look at the variable that announces one, the first in front of the
rules for terminals and the second behind them all. Raising what the variable promises lets the first answer with the
highest tier, and the second with a tier that a low floor is not above, so the tier that is found never gets lower. -/

namespace TermStyle.Proofs.ColorTerminal
open Detection DetectionInputs DetectionOutcome ForcedFloor

/-- How much the variable promises: nothing if it is unset or empty, some colours, or all of them. -/
def promise (env : Environment) : Nat :=
  match env.filled? "COLORTERM" with
  | none => 0
  | some kind => if kind = "truecolor" then 2 else 1

theorem promise_le (env : Environment) : promise env ≤ 2 := by
  unfold promise
  split
  · omega
  · split <;> omega

theorem promise_full_iff (env : Environment) : promise env = 2 ↔ env.get? "COLORTERM" = some "truecolor" := by
  unfold promise
  constructor
  · intro full
    split at full
    · cases full
    next kind filled =>
      split at full
      next best =>
        obtain ⟨value, _⟩ := Option.filter_eq_some_iff.mp filled
        rw [value, best]
      · cases full
  · intro value
    rw [Environment.filled?, value]
    rfl

theorem promise_none_iff (env : Environment) : promise env = 0 ↔ env.isFilled "COLORTERM" = false := by
  unfold promise Environment.isFilled
  cases env.filled? "COLORTERM" with
  | none => simp
  | some kind =>
    by_cases best : kind = "truecolor"
    · simp [best]
    · simp [best]

section Answers

variable (context : Context)

theorem truecolor_answer :
    Rule.colortermTruecolor.tier? context = .ok (answerIf (promise context.env = 2) 3) := by
  have decided : (context.env.get? "COLORTERM" == some "truecolor") = decide (promise context.env = 2) := by
    simp only [promise_full_iff, beq_eq_decide]
  exact congrArg (fun condition => Except.ok (answerIf condition 3)) decided

theorem any_answer : Rule.colortermAny.tier? context = .ok (answerIf (promise context.env ≠ 0) 1) := by
  have decided : context.env.isFilled "COLORTERM" = decide (promise context.env ≠ 0) := by
    simp [promise_none_iff]
  exact congrArg (fun condition => Except.ok (answerIf condition 1)) decided

variable {context}

theorem walk_answerIf {rule : Rule} {condition : Prop} [Decidable condition] {level : Int} (inside : InRange level)
    (answered : rule.tier? context = .ok (answerIf condition level)) (rest : List Rule) :
    walk context (rule :: rest) = if condition then .ok ⟨Tier.clamp level, some rule⟩ else walk context rest := by
  rw [walk, answered]
  by_cases held : condition
  · simp only [answerIf, held, decide_true, if_true, ofLevel_returns inside]
    rfl
  · simp only [answerIf, held, decide_false, if_false]
    rfl

theorem walk_nil (inside : InRange context.floor) : walk context [] = .ok ⟨Tier.clamp context.floor, none⟩ := by
  rw [walk, ofLevel_returns inside]
  rfl

end Answers

/-- Contexts that differ in the variable alone, where the second promises no less and the floor is low. -/
structure Raised (one other : Context) : Prop where
  env : AgreeBeside Variable.colorTerminal one.env other.env
  onWindows : one.onWindows = other.onWindows
  version : one.version = other.version
  floor : one.floor = other.floor
  ranged : InRange one.floor
  low : one.floor ≤ 1
  better : promise one.env ≤ promise other.env

/-- Where the first run returns, so does the second, with a tier that is no lower. -/
def NoLower (first second : Except Fault Finding) : Prop :=
  ∀ found, first = .ok found → ∃ better, second = .ok better ∧ found.tier.level ≤ better.tier.level

theorem NoLower.of_eq {first second : Except Fault Finding} (same : first = second) : NoLower first second := by
  intro found returned
  exact ⟨found, same ▸ returned, Int.le_refl _⟩

theorem noLower_truecolor (first : Except Fault Finding) (rule : Option Rule) :
    NoLower first (.ok ⟨.truecolor, rule⟩) := by
  intro found _
  exact ⟨_, rfl, (level_inRange found.tier).2⟩

section Runs

variable {one other : Context} (raised : Raised one other)

include raised

theorem unannounced_agree {rule : Rule} (early : rule ≠ .colortermTruecolor) (late : rule ≠ .colortermAny) :
    rule.tier? one = rule.tier? other := by
  have apart : ∀ input ∈ inputs rule, input.name? ≠ some Variable.colorTerminal := by
    cases rule with
    | colortermTruecolor => exact absurd rfl early
    | colortermAny => exact absurd rfl late
    | _ => decide
  apply tier?_congr
  intro input member
  exact raised.env.same raised.onWindows raised.version (apart input member) fun _ => raised.floor

/-- Behind the last rule there is only the floor, and that is not above its answer. -/
theorem last_raised : NoLower (walk one [.colortermAny]) (walk other [.colortermAny]) := by
  have better := raised.better
  have floors : walk one [] = walk other [] := walk_congr raised.floor (by simp)
  rw [walk_answerIf (by simp [InRange]) (any_answer one), walk_answerIf (by simp [InRange]) (any_answer other)]
  by_cases unpromised : promise one.env = 0
  · rw [if_neg (not_not.mpr unpromised)]
    by_cases promised : promise other.env ≠ 0
    · rw [if_pos promised, walk_nil raised.ranged]
      intro found returned
      obtain rfl := Except.ok.inj returned
      have level := TierReading.clamp_inRange raised.ranged.1 raised.ranged.2
      exact ⟨_, rfl, level.trans_le raised.low⟩
    · rw [if_neg promised]
      exact .of_eq floors
  · have promised : promise other.env ≠ 0 := by omega
    rw [if_pos unpromised, if_pos promised]
    exact .of_eq rfl

theorem walk_raised {front : List Rule} (inner : .colortermAny ∉ front) :
    NoLower (walk one (front ++ [.colortermAny])) (walk other (front ++ [.colortermAny])) := by
  induction front with
  | nil => exact last_raised raised
  | cons rule rest ih =>
    have behind := ih fun deeper => inner (List.mem_cons_of_mem _ deeper)
    simp only [List.cons_append]
    by_cases early : rule = .colortermTruecolor
    · subst early
      rw [walk_answerIf (by simp [InRange]) (truecolor_answer one), walk_answerIf (by simp [InRange]) (truecolor_answer other)]
      by_cases best : promise other.env = 2
      · rw [if_pos best]
        exact noLower_truecolor _ _
      · have below : promise one.env ≠ 2 := by
          have better := raised.better
          have most := promise_le other.env
          omega
        rw [if_neg best, if_neg below]
        exact behind
    · have late : rule ≠ .colortermAny := fun last => inner (by simp [last])
      have same := unannounced_agree raised early late
      rw [walk, walk, same]
      cases rule.tier? other with
      | error error => exact .of_eq rfl
      | ok answer =>
        cases answer with
        | none => exact behind
        | some level => exact .of_eq rfl

end Runs

/-- Where the floor is at most one, a colour terminal that promises more never leads to a lower tier, and never keeps
detection from returning. -/
theorem better_terminal_never_lowers {one other : Environment} (agree : AgreeBeside "COLORTERM" one other)
    (low : forcedFloor one ≤ 1) (better : promise one ≤ promise other) (onWindows : Bool) (version : Option Version) :
    ∀ found, (explain one onWindows version).value = .ok found →
      ∃ raised, (explain other onWindows version).value = .ok raised ∧ found.tier.level ≤ raised.tier.level := by
  have floors : forcedFloor one = forcedFloor other := forcedFloor_congr (agree _ (by decide))
  have raised : Raised (.ofEnvironment one onWindows version) (.ofEnvironment other onWindows version) :=
    ⟨agree, rfl, rfl, floors, forcedFloor_inRange one, low, better⟩
  have order : Rule.all = Rule.all.dropLast ++ [.colortermAny] := by rfl
  rw [explain_value, explain_value, evaluate, evaluate, order]
  exact walk_raised raised (by decide)

/-- A higher floor would be above the answer of the last rule. -/
example : (explain ⟨[("FORCE_COLOR", "2")]⟩ false none).value = .ok ⟨.extended, none⟩ ∧
    (explain ⟨[("COLORTERM", "yes"), ("FORCE_COLOR", "2")]⟩ false none).value = .ok ⟨.basic, some .colortermAny⟩ := by
  exact ⟨by rfl, by rfl⟩

def modest : Environment := ⟨[("FORCE_COLOR", "yes"), ("COLORTERM", "8bit"), ("TERM", "xterm")]⟩

def rich : Environment := ⟨("COLORTERM", "truecolor") :: modest.bindings⟩

theorem better_terminal_never_lowers_rich :
    AgreeBeside "COLORTERM" modest rich ∧ forcedFloor modest ≤ 1 ∧ promise modest ≤ promise rich ∧
    (explain modest false none).value = .ok ⟨.basic, some .termBasic⟩ ∧
    ∃ raised, (explain rich false none).value = .ok raised ∧ 1 ≤ raised.tier.level := by
  have agree : AgreeBeside "COLORTERM" modest rich := agreeBeside_cons _ _ _
  have low : forcedFloor modest ≤ 1 := by decide
  have better : promise modest ≤ promise rich := by decide
  have found : (explain modest false none).value = .ok ⟨.basic, some .termBasic⟩ := by rfl
  exact ⟨agree, low, better, found, better_terminal_never_lowers agree low better false none _ found⟩

end TermStyle.Proofs.ColorTerminal
