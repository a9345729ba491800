import TermStyle.Proofs.ExceptSteps
import TermStyle.Proofs.PainterRun

/-! The life of a coloured formatter, through any changes of its tier and any lines in any order, failed ones included.
A line is that of a plain formatter for the same record under another name of its severity, and that name follows from
the tier in force alone. -/

namespace TermStyle.Proofs.StyledNames
open Log ExceptSteps PainterRun

inductive Call
  | repaint (tier : Whole)
  | write (context : Option Detection.Context) (entry : Entry) (stamp : Stamp)

/-- What comes of a call. A line comes with the entry as it is left. -/
inductive Reply
  | nothing
  | line (result : Except Fault String) (left : Entry)

def perform : Call → Painter → Reply × Painter
  | .repaint tier, painter => (.nothing, painter.repaint tier)
  | .write context entry stamp, painter =>
    let (result, after, left) := painter.line entry context stamp
    (.line result left, after)

/-- A call in a run, with the painter it met, what came of it, and the painter it left. -/
structure Step where
  call : Call
  before : Painter
  reply : Reply
  after : Painter

def Step.make (call : Call) (painter : Painter) : Step := ⟨call, painter, (perform call painter).1, (perform call painter).2⟩

/-- The steps of a run. A line that fails does not end it. -/
def steps : List Call → Painter → List Step
  | [], _ => []
  | call :: rest, painter => Step.make call painter :: steps rest (Step.make call painter).after

namespace Step

/-- The surroundings that the step looks at, which it does for a line while no tier is in force. -/
def asks? (step : Step) : Option Detection.Context :=
  match step.call with
  | .repaint _ => none
  | .write context _ _ => if step.before.tier.isNone then context else none

def detects? (step : Step) : Option Whole := step.asks?.bind detected?

def settles? (step : Step) : Option Whole :=
  match step.call with
  | .repaint tier => some tier
  | .write _ _ _ => step.detects?

end Step

/-- The tier that was last put in force. -/
def inForce (given : Option Whole) (history : List Step) : Option Whole := (history.filterMap Step.settles?).getLast?.or given

/-- What holds of a line for an entry, given the tier in force. -/
structure Written (tier : Option Whole) (step : Step) (entry : Entry) (stamp : Stamp)
    (result : Except Fault String) : Prop where
  restored : step.reply = .line result entry
  styled : (∀ context, step.asks? = some context → ∃ finding, Detection.evaluate context = .ok finding) →
    ∃ shown, named tier entry.levelName = .ok shown ∧ result = Formatter.layOut step.before.format entry.record shown stamp
  stopped : ∀ context fault, step.asks? = some context → Detection.evaluate context = .error fault → result = .error fault
  carried : ∀ context, step.call = .write context (.ofRecord entry.record) stamp →
    step.before.formatter.line context entry.record stamp = (result, step.after.formatter)

/-- What holds of every step of a run, given the format, the tier the formatter was made with and the steps before it. -/
structure Lawful (format : String) (given : Option Whole) (history : List Step) (step : Step) : Prop where
  found : step.before.tier = inForce given history
  left : step.after.tier = inForce given (history ++ [step])
  formatted : step.before.format = format ∧ step.after.format = format
  faithful : Faithful step.before ∧ Faithful step.after
  asked : step.after.detections = step.before.detections + if step.asks?.isSome then 1 else 0
  idle : (inForce given history).isSome → step.asks? = none
  written : ∀ context entry stamp, step.call = .write context entry stamp →
    ∃ result, Written (inForce given (history ++ [step])) step entry stamp result

theorem inForce_append (given : Option Whole) (history : List Step) (step : Step) :
    inForce given (history ++ [step]) = step.settles?.or (inForce given history) := by
  unfold inForce
  rw [List.filterMap_append]
  cases settled : step.settles? with
  | none => simp [settled]
  | some tier => simp [settled]

private theorem write_asks (painter : Painter) (context : Option Detection.Context) (entry : Entry) (stamp : Stamp) :
    (Step.make (.write context entry stamp) painter).asks? = if painter.tier.isNone then context else none := rfl

section Stepping

variable {format : String} {given : Option Whole} {history : List Step} {painter : Painter}

private theorem write_settles (current : painter.tier = inForce given history) (context : Option Detection.Context)
    (entry : Entry) (stamp : Stamp) :
    (settled painter context).2.tier = inForce given (history ++ [Step.make (.write context entry stamp) painter]) := by
  rw [inForce_append, settled_painter, ← current]
  change _ = ((Step.make (.write context entry stamp) painter).asks?.bind detected?).or painter.tier
  rw [write_asks]
  rcases Option.eq_none_or_eq_some painter.tier with unknown | ⟨tier, known⟩
  · simp [unknown]
  · simp [known]

private theorem write_written (faithful : Faithful painter) (current : painter.tier = inForce given history)
    (context : Option Detection.Context) (entry : Entry) (stamp : Stamp) :
    Written (inForce given (history ++ [Step.make (.write context entry stamp) painter]))
      (Step.make (.write context entry stamp) painter) entry stamp (painter.line entry context stamp).1 := by
  obtain ⟨known, later, left⟩ := line_leaves faithful entry context stamp
  refine ⟨?_, ?_, ?_, ?_⟩
  · simp only [Step.make, perform, left]
  · intro resolved
    have found : (settled painter context).1 = .ok (settled painter context).2.tier :=
      settled_resolved fun unknown surroundings asked => resolved surroundings (by rw [write_asks, unknown, asked]; rfl)
    obtain ⟨_, shown, _, name, written⟩ := line_written faithful entry context found stamp
    rw [write_settles current context entry stamp] at name
    exact ⟨shown, name, congrArg Prod.fst written⟩
  · intro surroundings fault asked failed
    rw [write_asks] at asked
    split at asked
    next unknown =>
      subst asked
      exact congrArg Prod.fst (line_stopped entry _ (settled_failed (Option.isNone_iff_eq_none.mp unknown) failed) stamp)
    next => cases asked
  · intro _ same
    obtain ⟨rfl, bare, _⟩ := Call.write.inj same
    have alike := formatter_line faithful context entry.record stamp
    rw [← bare] at alike
    exact alike

variable (formatted : painter.format = format) (faithful : Faithful painter) (current : painter.tier = inForce given history)

include formatted faithful current

private theorem repaint_lawful (tier : Whole) : Lawful format given history (Step.make (.repaint tier) painter) where
  found := current
  left := by rw [inForce_append]; rfl
  formatted := ⟨formatted, formatted⟩
  faithful := ⟨faithful, faithful⟩
  asked := rfl
  idle := fun _ => rfl
  written := by
    intro _ _ _ other
    cases other

private theorem write_lawful (context : Option Detection.Context) (entry : Entry) (stamp : Stamp) :
    Lawful format given history (Step.make (.write context entry stamp) painter) := by
  obtain ⟨known, later, left⟩ := line_leaves faithful entry context stamp
  have after : (Step.make (.write context entry stamp) painter).after = { (settled painter context).2 with known } := by
    simp only [Step.make, perform, left]
  refine ⟨current, ?_, ⟨formatted, ?_⟩, ⟨faithful, ?_⟩, ?_, ?_, ?_⟩
  · rw [after]
    exact write_settles current context entry stamp
  · rw [after, settled_painter]
    exact formatted
  · rw [after]
    exact later
  · rw [after, write_asks, settled_painter]
    change _ = painter.detections + _
    rcases Option.eq_none_or_eq_some painter.tier with unknown | ⟨tier, known⟩
    · simp [unknown]
    · simp [known]
  · intro some
    rw [write_asks, current]
    simp [Option.isSome_iff_ne_none.mp some]
  · intro _ _ _ same
    obtain ⟨rfl, rfl, rfl⟩ := Call.write.inj same
    exact ⟨_, write_written faithful current context entry stamp⟩

theorem step_lawful (call : Call) : Lawful format given history (Step.make call painter) := by
  cases call with
  | repaint tier => exact repaint_lawful formatted faithful current tier
  | write context entry stamp => exact write_lawful formatted faithful current context entry stamp

/-- The induction is on the calls; what carries over is that the tables that are kept are faithful, and that the history
so far accounts for the tier in force. -/
theorem steps_lawful {calls : List Call} {front later : List Step} {step : Step}
    (run : steps calls painter = front ++ step :: later) : Lawful format given (history ++ front) step := by
  induction calls generalizing history painter front with
  | nil => simp [steps] at run
  | cons call rest ih =>
    have first := step_lawful formatted faithful current call
    rw [steps] at run
    cases front with
    | nil =>
      obtain ⟨rfl, _⟩ := List.cons.inj run
      rw [List.append_nil]
      exact first
    | cons head front =>
      obtain ⟨rfl, others⟩ := List.cons.inj run
      have deeper := ih first.formatted.2 first.faithful.2 first.left others
      rwa [List.append_assoc] at deeper

end Stepping

theorem settles?_detected {step : Step} {tier : Whole} (detected : step.detects? = some tier) : step.settles? = some tier := by
  obtain ⟨call, before, reply, after⟩ := step
  cases call with
  | repaint => cases detected
  | write => exact detected

/-- Once a tier is in force, none is found out again. -/
theorem detected_once {format : String} {given : Option Whole} {history : List Step} {painter : Painter}
    (formatted : painter.format = format) (faithful : Faithful painter) (current : painter.tier = inForce given history)
    (calls : List Call) :
    ((steps calls painter).filterMap Step.detects?).length ≤ 1 ∧
      (painter.tier.isSome → (steps calls painter).filterMap Step.detects? = []) := by
  induction calls generalizing history painter with
  | nil => simp [steps]
  | cons call rest ih =>
    have lawful := step_lawful formatted faithful current call
    obtain ⟨once, never⟩ := ih lawful.formatted.2 lawful.faithful.2 lawful.left
    have left := lawful.left.trans (inForce_append given history _)
    rw [steps]
    cases detected : (Step.make call painter).detects? with
    | none =>
      rw [List.filterMap_cons_none detected]
      refine ⟨once, fun known => never ?_⟩
      rw [left, ← current, Option.isSome_or, known, Bool.or_true]
    | some tier =>
      rw [left, settles?_detected detected] at never
      rw [List.filterMap_cons_some detected, never rfl]
      refine ⟨Nat.le_refl 1, fun known => ?_⟩
      rw [Step.detects?, lawful.idle (current ▸ known)] at detected
      cases detected

/-- Every step of every run keeps to the law, and at most one of them finds out a tier. -/
theorem styled_names (format : String) (given : Option Whole) (calls : List Call) :
    (∀ history step later, steps calls (.fresh format given) = history ++ step :: later → Lawful format given history step) ∧
      ((steps calls (.fresh format given)).filterMap Step.detects?).length ≤ 1 := by
  have current : (Painter.fresh format given).tier = inForce given [] := (Option.none_or).symm
  have faithful := fresh_faithful format given
  refine ⟨fun history step later run => ?_, (detected_once rfl faithful current calls).1⟩
  exact steps_lawful rfl faithful current run

private def noon : Stamp := ⟨⟨⟨2024, 2, 29⟩, 12, 0, 0, 0, none⟩, .unknown⟩

private def lost : Entry := .ofRecord (.warning "huecode" "lost")

private def unfit : Entry := .ofRecord ((Record.warning "huecode" "%d").withArgs [.text "one"])

private def colorful : Detection.Context := .ofEnvironment ⟨[("COLORTERM", "truecolor")]⟩ false none

private def lines : List Call :=
  [.write (some colorful) lost noon, .write (some colorful) unfit noon, .repaint (.ofInt 0), .write none lost noon]

private theorem lines_run :
    ∃ first second third fourth, steps lines (.fresh "%(levelname)s: %(message)s" none) = [first, second, third, fourth] ∧
      first.call = .write (some colorful) lost noon ∧ first.asks? = some colorful ∧
      second.call = .write (some colorful) unfit noon ∧ fourth.call = .write none lost noon ∧
      second.asks? = none ∧ fourth.asks? = none ∧ second.before.detections = 1 ∧
      first.after.tier = some (.ofInt 3) ∧ second.after.tier = some (.ofInt 3) ∧ fourth.after.tier = some (.ofInt 0) := by
  refine ⟨_, _, _, _, rfl, rfl, rfl, rfl, rfl, ?_⟩
  rw [← Option.isNone_iff_eq_none, ← Option.isNone_iff_eq_none]
  decide +kernel

private theorem lines_laidOut :
    (∃ finding, Detection.evaluate colorful = .ok finding) ∧
      (named (some (.ofInt 3)) "WARNING").toOption = some "\x1b[33mWARNING\x1b[m" ∧
      (named (some (.ofInt 0)) "WARNING").toOption = some "WARNING" ∧
      (Formatter.layOut "%(levelname)s: %(message)s" lost.record "\x1b[33mWARNING\x1b[m" noon).toOption =
        some "\x1b[33mWARNING\x1b[m: lost" ∧
      (Formatter.layOut "%(levelname)s: %(message)s" unfit.record "\x1b[33mWARNING\x1b[m" noon).toOption = none ∧
      (Formatter.layOut "%(levelname)s: %(message)s" lost.record "WARNING" noon).toOption = some "WARNING: lost" := by
  exact ⟨⟨_, rfl⟩, by decide +kernel⟩

/-- The tier is found out for the first line, kept for one that fails, and then replaced. -/
theorem styled_names_repainted :
    ∃ first second third fourth,
      steps lines (.fresh "%(levelname)s: %(message)s" none) = [first, second, third, fourth] ∧
      first.reply = .line (.ok "\x1b[33mWARNING\x1b[m: lost") lost ∧
      (∃ result, second.reply = .line result unfit ∧ result.toOption = none) ∧ second.after.detections = 1 ∧
      fourth.reply = .line (.ok "WARNING: lost") lost := by
  obtain ⟨first, second, third, fourth, run, firstCall, asks, secondCall, fourthCall, secondQuiet, fourthQuiet, counted,
    firstTier, secondTier, fourthTier⟩ := lines_run
  obtain ⟨⟨finding, found⟩, yellow, own, styled, unstyled, plain⟩ := lines_laidOut
  rw [toOption_some_iff] at yellow own
  have lawful := (styled_names "%(levelname)s: %(message)s" none lines).1
  have firstLawful := lawful [] first _ run
  have secondLawful := lawful [first] second _ run
  have fourthLawful := lawful [first, second, third] fourth _ run
  obtain ⟨firstLine, one⟩ := firstLawful.written _ _ _ firstCall
  obtain ⟨secondLine, two⟩ := secondLawful.written _ _ _ secondCall
  obtain ⟨fourthLine, four⟩ := fourthLawful.written _ _ _ fourthCall
  obtain ⟨_, firstName, rfl⟩ := one.styled fun context asked => by
    rw [← Option.some.inj (asks.symm.trans asked)]
    exact ⟨finding, found⟩
  obtain ⟨_, secondName, rfl⟩ := two.styled fun context asked => by simp [secondQuiet] at asked
  obtain ⟨_, fourthName, rfl⟩ := four.styled fun context asked => by simp [fourthQuiet] at asked
  rw [← firstLawful.left, firstTier] at firstName
  rw [← secondLawful.left, secondTier] at secondName
  rw [← fourthLawful.left, fourthTier] at fourthName
  obtain rfl := Except.ok.inj (yellow.symm.trans firstName)
  obtain rfl := Except.ok.inj (yellow.symm.trans secondName)
  obtain rfl := Except.ok.inj (own.symm.trans fourthName)
  rw [firstLawful.formatted.1] at one
  rw [secondLawful.formatted.1] at two
  rw [fourthLawful.formatted.1] at four
  refine ⟨first, second, third, fourth, run, ?_, ⟨_, two.restored, unstyled⟩, ?_, ?_⟩
  · rw [one.restored, toOption_some_iff.mp styled]
  · rw [secondLawful.asked, counted, secondQuiet]
    rfl
  · rw [four.restored, toOption_some_iff.mp plain]

end TermStyle.Proofs.StyledNames
