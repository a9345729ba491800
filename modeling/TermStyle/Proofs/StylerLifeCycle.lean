import TermStyle.Proofs.DetectionOutcome
import TermStyle.Proofs.StylerRun
import TermStyle.Proofs.TierReading

/-! The life of a styler, from its making through any calls in any order, failed ones included. What tier is in force
at a point follows from the history alone: from the last level that was assigned or detected since the last reset. -/

namespace TermStyle.Proofs.StylerLifeCycle
open Log ActionRun Logging StylerRun TierReading

inductive Call
  | read
  | assign (value : Value)
  | reset
  | compile (directives : String)
  | rawApply (text : String) (groups : List String)
  | apply (text : String) (groups : List String)
  | rawFormat (template : String)
  | format (template : String)

inductive Reply
  | nothing
  | level (level : Int)
  | text (text : String)

namespace Call

def perform : Call → Action Reply
  | .read => return .level (← Styler.level).level
  | .assign value => do Styler.setLevel value; return .nothing
  | .reset => do Styler.resetLevel; return .nothing
  | .compile directives => return .text (← Styler.compile directives)
  | .rawApply text groups => return .text (← Styler.rawApply text groups)
  | .apply text groups => return .text (← Styler.apply text groups)
  | .rawFormat template => return .text (← Styler.rawFormat template)
  | .format template => return .text (← Styler.format template)

def needsTier : Call → Bool
  | .assign _ | .reset => false
  | _ => true

/-- What a reading or a rendering comes to at a level, at which every piece of it is made. -/
def image (level : Int) : Call → Except Numeral.Error Reply
  | .read => .ok (.level level)
  | .assign _ | .reset => .ok .nothing
  | .compile directives => (Compile.text directives level).value.map .text
  | .rawApply text groups => (Compile.text (" ".intercalate groups) level).value.map fun front => .text (front ++ text)
  | .apply text groups =>
    (Compile.text (" ".intercalate groups) level).value.map fun front => .text (front ++ text ++ Sequence.reset.render)
  | .rawFormat template => ((Template.ofText template).expand level).value.map .text
  | .format template =>
    ((Template.ofText template).expand level).value.map fun body => .text (body ++ Sequence.reset.render)

end Call

/-- A call in a run, with the session it met, what came of it, and the session it left. -/
structure Step where
  call : Call
  before : Session
  result : Except Failure Reply
  after : Session

def Step.make (call : Call) (session : Session) : Step :=
  ⟨call, session, (outcome call.perform session).1, (outcome call.perform session).2⟩

/-- The steps of a run. A call that fails does not end it. -/
def steps : List Call → Session → List Step
  | [], _ => []
  | call :: rest, session => Step.make call session :: steps rest (Step.make call session).after

namespace Step

def asks (step : Step) : Bool := step.call.needsTier && step.before.styler.tier.isNone

/-- What the step puts in force: a level, none after a reset, or nothing new. -/
def settles? (step : Step) : Option (Option Int) :=
  match step.call with
  | .assign value => (integer? value).map fun number => some (clamped number)
  | .reset => some none
  | _ =>
    if step.asks then ((answer step.before).value.toOption.bind integer?).map fun number => some (clamped number)
    else none

end Step

/-- The level that was last put in force, if it was not reset since. -/
def inForce (given : Option Int) (history : List Step) : Option Int :=
  ((history.filterMap Step.settles?).getLast?).getD given

/-- What holds of every step of a run, given the level the styler was made with and the steps before it. -/
structure Lawful (given : Option Int) (history : List Step) (step : Step) : Prop where
  found : step.before.styler.tier.map Tier.level = inForce given history
  left : step.after.styler.tier.map Tier.level = inForce given (history ++ [step])
  ranged : ∀ level, step.after.styler.tier.map Tier.level = some level → 0 ≤ level ∧ level ≤ 3
  asked : step.after.styler.detections = step.before.styler.detections + if step.asks then 1 else 0
  unfit : step.asks = true → ∀ value, (answer step.before).value = .ok value → integer? value = none →
    step.after.styler.tier = none ∧ ∃ fault, step.result = .error (.fault fault) ∧ Refusal value fault
  unanswered : step.asks = true → ∀ fault, (answer step.before).value = .error fault →
    step.after.styler.tier = none ∧ step.result = .error (.fault fault)
  assigned : ∀ value number, step.call = .assign value → integer? value = some number → step.result = .ok .nothing
  refused : ∀ value, step.call = .assign value → integer? value = none →
    step.after.styler.tier = step.before.styler.tier ∧ ∃ fault, step.result = .error (.fault fault) ∧ Refusal value fault
  single : step.call.needsTier = true → ∀ level, inForce given (history ++ [step]) = some level →
    step.result = (step.call.image level).mapError fun error => .fault (.numeral error)

theorem inForce_append (given : Option Int) (history : List Step) (step : Step) :
    inForce given (history ++ [step]) = step.settles?.getD (inForce given history) := by
  unfold inForce
  rw [List.filterMap_append]
  cases settled : step.settles? with
  | none => simp [settled]
  | some level => simp [settled]

private theorem mapped_run {action : Action String} {made : Tier → Noted (Except Numeral.Error String)} {session : Session}
    (run : outcome action session = andThen (outcome Styler.level session) fun tier => shown (made tier))
    (reply : String → Reply) :
    outcome (action >>= fun text => pure (reply text)) session =
      andThen (outcome Styler.level session) fun tier after =>
        (((made tier).value.map reply).mapError fun error => .fault (.numeral error), emitted (made tier).records after) := by
  rw [outcome_bind, run]
  cases outcome Styler.level session with
  | mk result after =>
    cases result with
    | error failure => rfl
    | ok tier =>
      simp only [andThen_ok, shown]
      cases (made tier).value <;> rfl

theorem perform_run {call : Call} (needs : call.needsTier = true) :
    ∃ records : Tier → List Record, ∀ session, session.world.interrupting = false →
      outcome call.perform session = andThen (outcome Styler.level session) fun tier after =>
        ((call.image tier.level).mapError fun error => .fault (.numeral error), emitted (records tier) after) := by
  cases call with
  | assign | reset => cases needs
  | read =>
    refine ⟨fun _ => [], fun session _ => ?_⟩
    rw [Call.perform, outcome_bind]
    rfl
  | compile directives =>
    exact ⟨_, fun session _ => mapped_run (compile_run directives session) .text⟩
  | rawApply text groups =>
    refine ⟨fun tier => (Compile.text (" ".intercalate groups) tier.level).records, fun session _ => ?_⟩
    have run := mapped_run (compile_run (" ".intercalate groups) session) fun front => .text (front ++ text)
    simpa only [Call.perform, Call.image, Styler.rawApply, bind_assoc, pure_bind] using run
  | apply text groups =>
    refine ⟨fun tier => (Compile.text (" ".intercalate groups) tier.level).records, fun session _ => ?_⟩
    have run := mapped_run (compile_run (" ".intercalate groups) session)
      fun front => .text (front ++ text ++ Sequence.reset.render)
    simpa only [Call.perform, Call.image, Styler.apply, Styler.rawApply, bind_assoc, pure_bind] using run
  | rawFormat template =>
    exact ⟨_, fun session _ => mapped_run (rawFormat_run template session) .text⟩
  | format template =>
    refine ⟨fun tier => ((Template.ofText template).expand tier.level).records, fun session calm => ?_⟩
    have run := mapped_run (rawFormat_run template session) fun body => .text (body ++ Sequence.reset.render)
    rw [Call.perform, outcome_bind, format_calm calm, ← outcome_bind]
    simpa only [Call.image, bind_assoc, pure_bind] using run

theorem make_eq {call : Call} {session after : Session} {result : Except Failure Reply}
    (run : outcome call.perform session = (result, after)) : Step.make call session = ⟨call, session, result, after⟩ := by
  rw [Step.make, run]

theorem tier_ranged {session : Session} {level : Int} (held : session.styler.tier.map Tier.level = some level) :
    0 ≤ level ∧ level ≤ 3 := by
  obtain ⟨tier, _, rfl⟩ := Option.map_eq_some_iff.mp held
  exact DetectionOutcome.level_inRange tier

private theorem settles?_needing {call : Call} (needs : call.needsTier = true) {session after : Session}
    {result : Except Failure Reply} :
    Step.settles? ⟨call, session, result, after⟩ =
      if session.styler.tier.isNone then
        ((answer session).value.toOption.bind integer?).map fun number => some (clamped number)
      else none := by
  cases call with
  | assign | reset => cases needs
  | _ => simp [Step.settles?, Step.asks, Call.needsTier]

private theorem not_assign {call : Call} (needs : call.needsTier = true) (value : Value) : call ≠ .assign value := by
  rintro rfl
  cases needs

/-- For a call that needs no tier, the law says little: it asks for none. -/
private theorem setting_lawful {given : Option Int} {history : List Step} {step : Step}
    (settingCall : step.call.needsTier = false) (found : step.before.styler.tier.map Tier.level = inForce given history)
    (left : step.after.styler.tier.map Tier.level = inForce given (history ++ [step]))
    (still : step.after.styler.detections = step.before.styler.detections)
    (assigned : ∀ value number, step.call = .assign value → integer? value = some number → step.result = .ok .nothing)
    (refused : ∀ value, step.call = .assign value → integer? value = none →
      step.after.styler.tier = step.before.styler.tier ∧ ∃ fault, step.result = .error (.fault fault) ∧ Refusal value fault) :
    Lawful given history step := by
  have idle : step.asks = false := by rw [Step.asks, settingCall, Bool.false_and]
  refine ⟨found, left, fun level => tier_ranged, ?_, ?_, ?_, assigned, refused, ?_⟩
  · rw [idle, still]
    rfl
  · exact fun asks => absurd asks (Bool.eq_false_iff.mp idle)
  · exact fun asks => absurd asks (Bool.eq_false_iff.mp idle)
  · exact fun needs => absurd needs (Bool.eq_false_iff.mp settingCall)

section Stepping

variable {given : Option Int} {history : List Step} {session : Session}
  (current : session.styler.tier.map Tier.level = inForce given history)

include current

private theorem assign_lawful (value : Value) : Lawful given history (Step.make (.assign value) session) := by
  cases read : integer? value with
  | some number =>
    have run : outcome (Call.assign value).perform session = (.ok .nothing, settled (.clamp number) session) := by
      rw [Call.perform, outcome_bind, setLevel_ok (coerce_integer read)]
      rfl
    rw [make_eq run]
    refine setting_lawful rfl current ?_ rfl (fun _ _ _ _ => rfl) ?_
    · simp [inForce_append, Step.settles?, read, settled, clamp_level]
    · intro other same unread
      cases same
      rw [read] at unread
      cases unread
  | none =>
    obtain ⟨fault, refused, refusal⟩ := coerce_refused read
    have run : outcome (Call.assign value).perform session = (.error (.fault fault), session) := by
      rw [Call.perform, outcome_bind, setLevel_refused refused]
      rfl
    rw [make_eq run]
    refine setting_lawful rfl current ?_ rfl ?_ ?_
    · simp [inForce_append, Step.settles?, read, current]
    · intro other number same found
      cases same
      rw [read] at found
      cases found
    · intro other same _
      cases same
      exact ⟨rfl, fault, rfl, refusal⟩

private theorem reset_lawful : Lawful given history (Step.make .reset session) := by
  have run : outcome Call.reset.perform session = (.ok .nothing, unset session) := rfl
  rw [make_eq run]
  refine setting_lawful rfl current ?_ rfl ?_ ?_
  · simp [inForce_append, Step.settles?, unset]
  · intro _ _ same
    cases same
  · intro _ same
    cases same

variable (calm : session.world.interrupting = false) {call : Call} (needs : call.needsTier = true)

include calm needs

private theorem kept_lawful {tier : Tier} (kept : session.styler.tier = some tier) :
    Lawful given history (Step.make call session) := by
  obtain ⟨records, runs⟩ := perform_run needs
  have run := runs session calm
  rw [level_kept kept, andThen_ok] at run
  rw [make_eq run]
  have idle {result : Except Failure Reply} {after : Session} : Step.asks ⟨call, session, result, after⟩ = false := by
    simp [Step.asks, kept]
  have left {result : Except Failure Reply} {after : Session} :
      inForce given (history ++ [⟨call, session, result, after⟩]) = some tier.level := by
    rw [inForce_append, settles?_needing needs, ← current, kept]
    rfl
  refine ⟨current, ?_, fun level => tier_ranged, ?_, ?_, ?_, ?_, ?_, ?_⟩
  · rw [left]
    simp [emitted, kept]
  · rw [idle]
    rfl
  · intro asks
    rw [idle] at asks
    cases asks
  · intro asks
    rw [idle] at asks
    cases asks
  · exact fun value _ same => absurd same (not_assign needs value)
  · exact fun value same => absurd same (not_assign needs value)
  · intro _ level same
    rw [left] at same
    cases same
    rfl

private theorem failing_lawful (unknown : session.styler.tier = none) {fault : Fault} (failed : sounded session = .error fault)
    (cause : (answer session).value = .error fault ∨
      ∃ value, (answer session).value = .ok value ∧ integer? value = none ∧ Refusal value fault) :
    Lawful given history (Step.make call session) := by
  obtain ⟨records, runs⟩ := perform_run needs
  have run := runs session calm
  rw [level_unsounded unknown failed, andThen_error] at run
  rw [make_eq run]
  have nothing : (answer session).value.toOption.bind integer? = none := by
    rcases cause with same | ⟨value, same, unread, _⟩
    · rw [same]
      rfl
    · rw [same]
      exact unread
  have still : (asked session).styler.tier = none := unknown
  have left {result : Except Failure Reply} {after : Session} :
      inForce given (history ++ [⟨call, session, result, after⟩]) = none := by
    rw [inForce_append, settles?_needing needs, nothing, ← current, unknown]
    rfl
  refine ⟨current, ?_, fun level => tier_ranged, ?_, ?_, ?_, ?_, ?_, ?_⟩
  · rw [left, still]
    rfl
  · simp [Step.asks, needs, unknown, asked, emitted, counted]
  · intro _ value answered unread
    rcases cause with same | ⟨other, same, _, refusal⟩
    · rw [same] at answered
      cases answered
    · rw [same] at answered
      cases answered
      exact ⟨still, fault, rfl, refusal⟩
  · intro _ other raised
    rcases cause with same | ⟨value, same, _, _⟩
    · rw [same] at raised
      cases raised
      exact ⟨still, rfl⟩
    · rw [same] at raised
      cases raised
  · exact fun value _ same => absurd same (not_assign needs value)
  · exact fun value same => absurd same (not_assign needs value)
  · intro _ level same
    rw [left] at same
    cases same

private theorem settling_lawful (unknown : session.styler.tier = none) {value : Value} {number : Int}
    (answered : (answer session).value = .ok value) (read : integer? value = some number) :
    Lawful given history (Step.make call session) := by
  have found : sounded session = .ok (.clamp number) := by
    rw [sounded, answered]
    exact coerce_integer read
  obtain ⟨records, runs⟩ := perform_run needs
  have run := runs session calm
  rw [level_sounded unknown found, andThen_ok] at run
  rw [make_eq run]
  have left {result : Except Failure Reply} {after : Session} :
      inForce given (history ++ [⟨call, session, result, after⟩]) = some (clamped number) := by
    rw [inForce_append, settles?_needing needs, answered, unknown]
    simp [Except.toOption, read]
  refine ⟨current, ?_, fun level => tier_ranged, ?_, ?_, ?_, ?_, ?_, ?_⟩
  · rw [left]
    simp [emitted, settled, clamp_level]
  · simp [Step.asks, needs, unknown, asked, emitted, counted, settled]
  · intro _ other same unread
    rw [answered] at same
    cases same
    rw [read] at unread
    cases unread
  · intro _ fault raised
    rw [answered] at raised
    cases raised
  · exact fun value _ same => absurd same (not_assign needs value)
  · exact fun value same => absurd same (not_assign needs value)
  · intro _ level same
    rw [left] at same
    cases same
    rw [clamp_level]

end Stepping

theorem step_calm {session : Session} (calm : session.world.interrupting = false) (call : Call) :
    (Step.make call session).after.world.interrupting = false := by
  cases needs : call.needsTier with
  | true =>
    obtain ⟨records, runs⟩ := perform_run needs
    have logged := level_logged session
    simp only [Step.make, runs session calm]
    cases read : outcome Styler.level session with
    | mk result after =>
      rw [read] at logged
      cases result with
      | error failure => exact logged.interrupting.trans calm
      | ok tier => exact (logged.trans (emitted_logged (records tier) after)).interrupting.trans calm
  | false =>
    cases call with
    | reset => exact calm
    | assign value =>
      simp only [Step.make, Call.perform, outcome_bind]
      cases read : Tier.coerce value with
      | ok tier =>
        rw [setLevel_ok read]
        exact calm
      | error fault =>
        rw [setLevel_refused read]
        exact calm
    | _ => cases needs

theorem step_lawful {given : Option Int} {history : List Step} {session : Session}
    (current : session.styler.tier.map Tier.level = inForce given history) (calm : session.world.interrupting = false)
    (call : Call) : Lawful given history (Step.make call session) := by
  cases needs : call.needsTier with
  | true =>
    cases held : session.styler.tier with
    | some tier => exact kept_lawful current calm needs held
    | none =>
      cases answered : (answer session).value with
      | error fault =>
        have failed : sounded session = .error fault := by
          rw [sounded, answered]
          rfl
        exact failing_lawful current calm needs held failed (Or.inl answered)
      | ok value =>
        cases read : integer? value with
        | some number => exact settling_lawful current calm needs held answered read
        | none =>
          obtain ⟨fault, refused, refusal⟩ := coerce_refused read
          have failed : sounded session = .error fault := by
            rw [sounded, answered]
            exact refused
          exact failing_lawful current calm needs held failed (Or.inr ⟨value, answered, read, refusal⟩)
  | false =>
    cases call with
    | assign value => exact assign_lawful current value
    | reset => exact reset_lawful current
    | _ => cases needs

/-- The induction is on the calls; what carries over is that the history so far accounts for the tier in force. -/
theorem steps_lawful {given : Option Int} {history : List Step} {session : Session}
    (current : session.styler.tier.map Tier.level = inForce given history) (calm : session.world.interrupting = false)
    {calls : List Call} {front later : List Step} {step : Step} (run : steps calls session = front ++ step :: later) :
    Lawful given (history ++ front) step := by
  induction calls generalizing history session front with
  | nil => simp [steps] at run
  | cons call rest ih =>
    have first := step_lawful current calm call
    rw [steps] at run
    cases front with
    | nil =>
      obtain ⟨rfl, _⟩ := List.cons.inj run
      rw [List.append_nil]
      exact first
    | cons head front =>
      obtain ⟨rfl, others⟩ := List.cons.inj run
      have deeper := ih first.left (step_calm calm call) others
      rwa [List.append_assoc] at deeper

theorem make_iff {detector : Detector} {given : Option Value} {styler : Styler} :
    Styler.make detector given = .ok styler ↔
      (∀ value, given = some value → (integer? value).isSome) ∧
      styler = ⟨detector, (given.bind integer?).map Tier.clamp, 0⟩ := by
  cases given with
  | none =>
    constructor
    · rintro ⟨⟩
      exact ⟨nofun, rfl⟩
    · rintro ⟨_, rfl⟩
      rfl
  | some value =>
    cases read : integer? value with
    | some number =>
      have made : Styler.make detector (some value) = .ok ⟨detector, some (.clamp number), 0⟩ := by
        simp only [Styler.make, coerce_integer read]
        rfl
      rw [made, Option.bind_some, read]
      constructor
      · rintro ⟨⟩
        refine ⟨?_, rfl⟩
        intro other same
        cases same
        rw [read]
        rfl
      · rintro ⟨_, rfl⟩
        rfl
    | none =>
      obtain ⟨fault, refused, _⟩ := coerce_refused read
      have failed : Styler.make detector (some value) = .error fault := by
        simp only [Styler.make, refused]
        rfl
      rw [failed]
      constructor
      · nofun
      · rintro ⟨readable, _⟩
        have isThere := readable value rfl
        rw [read] at isThere
        cases isThere

/-- A styler is made unless a level is given that is none. From then on every step of every run keeps to the law. -/
theorem life_cycle (detector : Detector) (given : Option Value) :
    ((∃ styler, Styler.make detector given = .ok styler) ↔ ∀ value, given = some value → (integer? value).isSome) ∧
    ∀ styler, Styler.make detector given = .ok styler → styler.detector = detector ∧ styler.detections = 0 ∧
      ∀ world, world.interrupting = false → ∀ calls history step later,
        steps calls ⟨styler, world⟩ = history ++ step :: later → Lawful ((given.bind integer?).map clamped) history step := by
  simp only [make_iff]
  refine ⟨⟨fun ⟨_, readable, _⟩ => readable, fun readable => ⟨_, readable, rfl⟩⟩, ?_⟩
  rintro styler ⟨_, rfl⟩
  refine ⟨rfl, rfl, fun world calm calls history step later run => ?_⟩
  have current : ((given.bind integer?).map Tier.clamp).map Tier.level = inForce ((given.bind integer?).map clamped) [] := by
    simp [inForce, Option.map_map, Function.comp_def, clamp_level]
  have lawful := steps_lawful current calm run
  exact lawful

/-- A detector whose first answer is no tier, and whose later ones are too great. -/
def moody : Detector := .script fun count => if count = 0 then .bool true else .int 7

theorem life_cycle_moody :
    Styler.make moody none = .ok ⟨moody, none, 0⟩ ∧ (plainSession .none).world.interrupting = false ∧
    ∃ first second third, steps [.read, .assign (.bool false), .compile "red"] ⟨⟨moody, none, 0⟩, (plainSession .none).world⟩ =
        [first, second, third] ∧
      first.after.styler.tier = none ∧ (∃ fault, first.result = .error (.fault fault) ∧ Refusal (.bool true) fault) ∧
      second.after.styler.detections = 1 ∧ third.after.styler.detections = 2 ∧
      third.after.styler.tier.map Tier.level = some 3 ∧ third.result = .ok (.text "\u001b[31m") := by
  have made : Styler.make moody none = .ok ⟨moody, none, 0⟩ := rfl
  have calm : (plainSession .none).world.interrupting = false := rfl
  have lawful := ((life_cycle moody none).2 _ made).2.2 _ calm [.read, .assign (.bool false), .compile "red"]
  have firstLawful := lawful [] _ _ rfl
  have secondLawful := lawful [_] _ _ rfl
  have thirdLawful := lawful [_, _] _ _ rfl
  refine ⟨made, calm, _, _, _, rfl, ?_⟩
  obtain ⟨unsettled, refused⟩ := firstLawful.unfit rfl (.bool true) rfl rfl
  exact ⟨unsettled, refused, secondLawful.asked, thirdLawful.asked, thirdLawful.left, thirdLawful.single rfl 3 rfl⟩

end TermStyle.Proofs.StylerLifeCycle
