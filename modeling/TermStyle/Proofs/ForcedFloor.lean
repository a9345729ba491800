import TermStyle.Proofs.DetectionInputs
import TermStyle.Proofs.TierReading

/-! What forced colours can change. Detection is run twice, in environments that differ in the one variable that forces
colours. No rule looks at that variable. It sets the floor, and the floor is only ever an answer, never a reason to
answer, so both runs come to the same rule. -/

namespace TermStyle.Proofs.ForcedFloor
open Detection DetectionInputs DetectionOutcome TierReading

/-- The environments hold the same, but perhaps not for this one variable. -/
def AgreeBeside (name : String) (one other : Environment) : Prop := ∀ key, key ≠ name → one.get? key = other.get? key

theorem agreeBeside_cons (name value : String) (env : Environment) :
    AgreeBeside name env ⟨(name, value) :: env.bindings⟩ := by
  intro key beside
  have other : (key == name) = false := beq_false_of_ne beside
  simp only [Environment.get?, List.lookup_cons, other]

theorem AgreeBeside.same {name : String} {one other : Context} (agree : AgreeBeside name one.env other.env)
    (onWindows : one.onWindows = other.onWindows) (version : one.version = other.version) {input : Input}
    (apart : input.name? ≠ some name) (floor : input = .floor → one.floor = other.floor) : input.Same one other := by
  cases input with
  | value key => exact agree key (apart ∘ congrArg some)
  | defined key =>
    have value := agree key (apart ∘ congrArg some)
    rw [Input.Same, Environment.isDefined, value, Environment.isDefined]
  | filled key =>
    have value := agree key (apart ∘ congrArg some)
    rw [Input.Same, Environment.isFilled, Environment.filled?, value, Environment.isFilled, Environment.filled?]
  | floor => exact floor rfl
  | platform => exact ⟨onWindows, fun _ => version⟩

/-- Two contexts that agree in all but the forcing of colours, with floors that may differ. -/
structure Counterparts (one other : Context) : Prop where
  env : AgreeBeside Variable.forceColor one.env other.env
  onWindows : one.onWindows = other.onWindows
  version : one.version = other.version
  floor : InRange one.floor
  counterfloor : InRange other.floor

theorem ofEnvironment_counterparts {one other : Environment} (agree : AgreeBeside Variable.forceColor one other)
    (onWindows : Bool) (version : Option Version) :
    Counterparts (.ofEnvironment one onWindows version) (.ofEnvironment other onWindows version) :=
  ⟨agree, rfl, rfl, forcedFloor_inRange one, forcedFloor_inRange other⟩

/-- What the two runs come to: the same failure, one tier that a rule has of its own, or the two floors. -/
inductive Matched (one other : Context) : Except Fault Finding → Except Fault Finding → Prop
  | failed (fault : Fault) : Matched one other (.error fault) (.error fault)
  | own {rule : Rule} (unforced : rule ≠ .dumbTerminal) (tier : Tier) :
      Matched one other (.ok ⟨tier, some rule⟩) (.ok ⟨tier, some rule⟩)
  | floor {rule : Option Rule} (forced : rule = some .dumbTerminal ∨ rule = none) :
      Matched one other (.ok ⟨Tier.clamp one.floor, rule⟩) (.ok ⟨Tier.clamp other.floor, rule⟩)

/-- The variable only ever shows in the floor, and only one rule looks at that. -/
theorem unforced_inputs {rule : Rule} (unforced : rule ≠ .dumbTerminal) :
    ∀ input ∈ inputs rule, input.name? ≠ some Variable.forceColor ∧ input ≠ .floor := by
  cases rule with
  | dumbTerminal => exact absurd rfl unforced
  | _ => decide

section Runs

variable {one other : Context} (counterparts : Counterparts one other)

include counterparts

theorem Counterparts.same {input : Input} (apart : input.name? ≠ some Variable.forceColor) (sunk : input ≠ .floor) :
    input.Same one other :=
  counterparts.env.same counterparts.onWindows counterparts.version apart fun floor => absurd floor sunk

theorem tier?_agree {rule : Rule} (unforced : rule ≠ .dumbTerminal) : rule.tier? one = rule.tier? other := by
  apply tier?_congr
  intro input member
  obtain ⟨apart, sunk⟩ := unforced_inputs unforced input member
  exact counterparts.same apart sunk

theorem walk_matched (rules : List Rule) : Matched one other (walk one rules) (walk other rules) := by
  induction rules with
  | nil =>
    rw [walk, walk, ofLevel_returns counterparts.floor, ofLevel_returns counterparts.counterfloor]
    exact .floor (Or.inr rfl)
  | cons rule rest ih =>
    by_cases forced : rule = .dumbTerminal
    · -- The terminal is a dumb one in both contexts or in neither. Only the answer is each context's own floor.
      subst forced
      have term : one.term = other.term := term_congr (counterparts.same (by decide) (by decide))
      simp only [walk, Rule.tier?, answerIf, term]
      by_cases dumb : (other.term == dumbName) = true
      · simp only [if_pos dumb, ofLevel_returns counterparts.floor, ofLevel_returns counterparts.counterfloor]
        exact .floor (Or.inl rfl)
      · simp only [if_neg dumb]
        exact ih
    · have same := tier?_agree counterparts forced
      rw [walk, walk, same]
      cases answered : rule.tier? other with
      | error error => exact .failed _
      | ok answer =>
        cases answer with
        | none => exact ih
        | some level =>
          simp only [ofLevel_returns (tier?_inRange counterparts.counterfloor answered)]
          exact .own forced _

end Runs

theorem own_name {rule : Rule} (unforced : rule ≠ .dumbTerminal) : rule.name ≠ "dumb_terminal" ∧ rule.name ≠ "fallback" := by
  cases rule with
  | dumbTerminal => exact absurd rfl unforced
  | _ => decide

section Detections

variable {one other : Environment} (agree : AgreeBeside Variable.forceColor one other)

theorem explain_value (env : Environment) (onWindows : Bool) (version : Option Version) :
    (explain env onWindows version).value = evaluate (.ofEnvironment env onWindows version) := by
  unfold explain
  split
  next found => exact found.symm
  next failed => exact failed.symm

include agree in
theorem explain_matched (onWindows : Bool) (version : Option Version) :
    Matched (.ofEnvironment one onWindows version) (.ofEnvironment other onWindows version)
      (explain one onWindows version).value (explain other onWindows version).value := by
  rw [explain_value, explain_value]
  exact walk_matched (ofEnvironment_counterparts agree onWindows version) Rule.all

theorem floor_level (env : Environment) (onWindows : Bool) (version : Option Version) :
    (Tier.clamp (Context.ofEnvironment env onWindows version).floor).level = forcedFloor env := by
  obtain ⟨least, greatest⟩ := forcedFloor_inRange env
  exact clamp_inRange least greatest

end Detections

/-- Forcing colours in another way does not change whether detection returns, and not by which rule. It changes the tier
only where the terminal is a dumb one or no rule answers. There the tier is the floor that the environment asks for. So a
higher floor never leads to a lower tier. -/
theorem forced_colors_move_floor {one other : Environment} (agree : AgreeBeside Variable.forceColor one other)
    (onWindows : Bool) (version : Option Version) :
    (∃ fault, (explain one onWindows version).value = .error fault ∧
      (explain other onWindows version).value = .error fault) ∨
    ∃ first second, (explain one onWindows version).value = .ok first ∧ (explain other onWindows version).value = .ok second ∧
      first.ruleName = second.ruleName ∧
      (first.tier = second.tier ∨ first.ruleName = "dumb_terminal" ∨ first.ruleName = "fallback") ∧
      (first.ruleName = "dumb_terminal" ∨ first.ruleName = "fallback" →
        first.tier.level = forcedFloor one ∧ second.tier.level = forcedFloor other) ∧
      (forcedFloor one ≤ forcedFloor other → first.tier.level ≤ second.tier.level) := by
  have matched := explain_matched agree onWindows version
  generalize (explain one onWindows version).value = first at matched ⊢
  generalize (explain other onWindows version).value = second at matched ⊢
  cases matched with
  | failed fault => exact Or.inl ⟨fault, rfl, rfl⟩
  | @own rule unforced tier =>
    have named := own_name unforced
    refine Or.inr ⟨⟨tier, some rule⟩, ⟨tier, some rule⟩, rfl, rfl, rfl, Or.inl rfl, ?_, fun _ => Int.le_refl _⟩
    rintro (dumb | fallback)
    · exact absurd dumb named.1
    · exact absurd fallback named.2
  | @floor rule forced =>
    have levels := And.intro (floor_level one onWindows version) (floor_level other onWindows version)
    refine Or.inr ⟨_, _, rfl, rfl, rfl, Or.inr ?_, fun _ => levels, ?_⟩
    · rcases forced with rfl | rfl
      · exact Or.inl rfl
      · exact Or.inr rfl
    · intro higher
      rw [levels.1, levels.2]
      exact higher

def dumb : Environment := ⟨[(Variable.terminal, dumbName)]⟩

def forcedDumb : Environment := ⟨(Variable.forceColor, " 2 ") :: dumb.bindings⟩

theorem forced_colors_move_floor_dumb :
    AgreeBeside Variable.forceColor dumb forcedDumb ∧
    ∃ first second, (explain dumb false none).value = .ok first ∧ (explain forcedDumb false none).value = .ok second ∧
      first.ruleName = "dumb_terminal" ∧ second.ruleName = "dumb_terminal" ∧
      first.tier.level = 0 ∧ second.tier.level = 2 := by
  have agree : AgreeBeside Variable.forceColor dumb forcedDumb := by
    intro key beside
    have other : (key == Variable.forceColor) = false := beq_false_of_ne beside
    simp only [Environment.get?, forcedDumb, List.lookup_cons, other]
  have floors : forcedFloor dumb = 0 ∧ forcedFloor forcedDumb = 2 := by decide
  have found : (explain dumb false none).value = .ok ⟨.none, some .dumbTerminal⟩ := by rfl
  rcases forced_colors_move_floor agree false none with ⟨fault, failed, _⟩ | ⟨first, second, one, other, named, _, levels, _⟩
  · rw [found] at failed
    cases failed
  · rw [found] at one
    obtain rfl := Except.ok.inj one
    rw [floors.1, floors.2] at levels
    obtain ⟨low, high⟩ := levels (Or.inl rfl)
    exact ⟨agree, _, second, found, other, rfl, named.symm, low, high⟩

end TermStyle.Proofs.ForcedFloor
