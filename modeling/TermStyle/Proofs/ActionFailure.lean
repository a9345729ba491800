import TermStyle.Proofs.StylerRun

/-! When actions fail. A failure is taken apart as a return is: an action that goes on with another fails where the first
half does, or where the second does behind it. What never fails is known by its shape. -/

namespace TermStyle.Proofs.ActionFailure
open ActionRun Logging StylerRun Log ExceptSteps

/-- The action ends with the failure, whatever session it leaves. -/
def Fails (action : Action α) (before : Session) (failure : Failure) : Prop := (outcome action before).1 = .error failure

/-- The action ends with a value in every session. -/
def Sure (action : Action α) : Prop := ∀ before, ∃ value after, Returns action before value after

section Rules

variable {action : Action α} {before after middle : Session} {failure : Failure} {value : α}

theorem fails_iff : Fails action before failure ↔ ∃ after, outcome action before = (.error failure, after) := by
  unfold Fails
  cases outcome action before with
  | mk result after => simp

theorem returns_or_fails (action : Action α) (before : Session) :
    (∃ value after, Returns action before value after) ∨ ∃ failure, Fails action before failure := by
  unfold Returns Fails
  cases outcome action before with
  | mk result after => cases result <;> simp

theorem returns_unfailing (returned : Returns action before value after) : ¬ Fails action before failure := by
  rw [Fails, returned]
  nofun

theorem fails_bind {next : α → Action β} : Fails (action >>= next) before failure ↔
    Fails action before failure ∨ ∃ value middle, Returns action before value middle ∧ Fails (next value) middle failure := by
  unfold Fails Returns
  rw [outcome_bind]
  cases outcome action before with
  | mk result middle =>
    cases result with
    | error cause => simp
    | ok value => simp

theorem fails_behind {next : α → Action β} (first : Returns action before value middle) :
    Fails (action >>= next) before failure ↔ Fails (next value) middle failure := by
  unfold Fails
  rw [outcome_behind first]

theorem fails_pure : ¬ Fails (pure value) before failure := nofun

theorem fails_throw {cause : Failure} : Fails (throw cause : Action α) before failure ↔ failure = cause := by
  simp [Fails, eq_comm]

theorem fails_lift {result : Except Fault α} :
    Fails (Action.lift result) before failure ↔ ∃ fault, result = .error fault ∧ failure = .fault fault := by
  rw [Fails, outcome_lift]
  cases result with
  | error fault => simp [eq_comm]
  | ok value => simp

theorem fails_ofExcept {result : Except Failure α} :
    Fails (MonadExcept.ofExcept result) before failure ↔ result = .error failure := by
  rw [Fails, outcome_ofExcept]

/-- What goes on only if the first half ends well, and never fails itself, fails where the first half does. -/
theorem fails_bind_sure {next : α → Action β} (rest : ∀ value, Sure (next value)) :
    Fails (action >>= next) before failure ↔ Fails action before failure := by
  rw [fails_bind, or_iff_left]
  rintro ⟨value, middle, _, failed⟩
  obtain ⟨_, _, returned⟩ := rest value middle
  exact returns_unfailing returned failed

theorem sure_pure (value : α) : Sure (pure value : Action α) := fun before => ⟨value, before, rfl⟩

theorem sure_world : Sure Action.world := fun before => ⟨before.world, before, rfl⟩

theorem sure_inWorld (change : World → World) : Sure (Action.inWorld change) := fun _ => ⟨(), _, outcome_inWorld _ _⟩

theorem sure_bind {next : α → Action β} (first : Sure action) (rest : ∀ value, Sure (next value)) :
    Sure (action >>= next) := by
  intro before
  obtain ⟨value, middle, returned⟩ := first before
  obtain ⟨last, after, further⟩ := rest value middle
  exact ⟨last, after, returns_bind.mpr ⟨value, middle, returned, further⟩⟩

theorem sure_note {records : List Record} (bare : ∀ record ∈ records, record.args = []) : Sure (Action.note records) :=
  fun before => ⟨(), _, note_bare bare before⟩

theorem sure_bare {record : Record} (bare : record.args = []) : Sure (Action.note [record]) :=
  sure_note fun _ member => List.mem_singleton.mp member ▸ bare

end Rules

section Noting

/-- Handlers that are settled on the way refuse the same records. -/
theorem refusal?_settled {before after : World} (logged : Logged before after) (record : Record) :
    after.refusal? record = before.refusal? record := by
  have reads : ∀ first second : List Handler, AllSettle first second →
      (second.any fun handler => handler.sink == .journal && !record.level.isBelow handler.level) =
        first.any fun handler => handler.sink == .journal && !record.level.isBelow handler.level := by
    intro first second settles
    induction settles with
    | nil => rfl
    | cons head _ ih => simp only [List.any_cons, head.sink, head.level, ih]
  have same := reads _ _ logged.handlers
  have admits : after.log.admits record.logger record.level = before.log.admits record.logger record.level := by
    rw [logged.rest]
    rfl
  have belongs : after.log.belongs record.logger = before.log.belongs record.logger := by
    rw [logged.rest]
    rfl
  unfold World.refusal?
  rw [admits]
  unfold Setup.handlersOf
  rw [belongs]
  split
  · dsimp only
    rw [same]
  · rfl

variable {before : Session} {failure : Failure}

theorem note_fails {records : List Record} : Fails (Action.note records) before failure ↔
    ∃ fault, records.findSome? before.world.refusal? = some fault ∧ failure = .fault fault := by
  induction records generalizing before with
  | nil => exact ⟨nofun, nofun⟩
  | cons record rest ih =>
    rw [Fails, List.findSome?_cons]
    cases refused : before.world.refusal? record with
    | some fault =>
      rw [note_refused refused]
      simp [eq_comm]
    | none =>
      rw [note_emitted refused]
      have later : (emitted [record] before).world.refusal? = before.world.refusal? :=
        funext fun other => refusal?_settled (emitted_logged [record] before) other
      have others := @ih (emitted [record] before)
      rw [later] at others
      exact others

theorem level_fails : Fails Styler.level before failure ↔
    before.styler.tier = none ∧ ∃ fault, sounded before = .error fault ∧ failure = .fault fault := by
  unfold Fails
  cases inForce : before.styler.tier with
  | some tier => simp [level_kept inForce]
  | none =>
    cases found : sounded before with
    | ok tier => simp [level_sounded inForce found]
    | error fault => simp [level_unsounded inForce found, eq_comm]

theorem setLevel_fails {value : Value} : Fails (Styler.setLevel value) before failure ↔
    ∃ fault, Tier.coerce value = .error fault ∧ failure = .fault fault := by
  unfold Fails
  cases read : Tier.coerce value with
  | ok tier => simp [setLevel_ok read]
  | error fault => simp [setLevel_refused read, eq_comm]

theorem noted_fails {result : Noted (Except Fault α)} (bare : ∀ record ∈ result.records, record.args = []) :
    Fails (Action.noted result) before failure ↔ ∃ fault, result.value = .error fault ∧ failure = .fault fault := by
  rw [Fails, noted_run bare]
  cases result.value with
  | error fault => simp [eq_comm]
  | ok value => simp

theorem rendered_fails {result : Noted (Except Numeral.Error String)} (bare : ∀ record ∈ result.records, record.args = []) :
    Fails (Styler.rendered result) before failure ↔
      ∃ error, result.value = .error error ∧ failure = .fault (.numeral error) := by
  rw [Styler.rendered, noted_fails bare]
  cases result.value with
  | error error => simp
  | ok text => simp

end Noting

end TermStyle.Proofs.ActionFailure
