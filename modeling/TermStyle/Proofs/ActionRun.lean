import Mathlib.Order.Defs.Unbundled
import TermStyle.Proofs.ExceptSteps
import TermStyle.Session

/-! Running actions. A run gives a value or a failure, and in both cases the session it leaves behind. Bind is taken
apart in two ways: as an equation between runs, and, for actions that return, into the runs of its two halves. What an
action never changes, whatever comes of it, follows its shape. -/

namespace TermStyle.Proofs.ActionRun
open Log

def outcome (action : Action α) (session : Session) : Except Failure α × Session := action.run.run session

/-- Goes on with a value; a failure stays what it is. -/
def andThen (first : Except Failure α × Session) (next : α → Session → Except Failure β × Session) :
    Except Failure β × Session :=
  match first.1 with
  | .ok value => next value first.2
  | .error failure => (.error failure, first.2)

@[simp]
theorem andThen_ok (value : α) (session : Session) (next : α → Session → Except Failure β × Session) :
    andThen (.ok value, session) next = next value session := rfl

@[simp]
theorem andThen_error (failure : Failure) (session : Session) (next : α → Session → Except Failure β × Session) :
    andThen (.error failure, session) next = (.error failure, session) := rfl

@[simp]
theorem outcome_pure (value : α) (session : Session) : outcome (pure value) session = (.ok value, session) := rfl

@[simp]
theorem outcome_bind (action : Action α) (next : α → Action β) (session : Session) :
    outcome (action >>= next) session = andThen (outcome action session) fun value after => outcome (next value) after := by
  simp only [outcome, andThen, ExceptT.run_bind, StateT.run_bind]
  cases action.run.run session with
  | mk result after => cases result <;> rfl

@[simp]
theorem outcome_throw (failure : Failure) (session : Session) :
    outcome (throw failure : Action α) session = (.error failure, session) := rfl

@[simp]
theorem outcome_get (session : Session) : outcome get session = (.ok session, session) := rfl

@[simp]
theorem outcome_world (session : Session) : outcome Action.world session = (.ok session.world, session) := rfl

@[simp]
theorem outcome_inWorld (change : World → World) (session : Session) :
    outcome (Action.inWorld change) session = (.ok (), { session with world := change session.world }) := rfl

@[simp]
theorem outcome_lift (result : Except Fault α) (session : Session) :
    outcome (Action.lift result) session = (result.mapError .fault, session) := by
  cases result <;> rfl

@[simp]
theorem outcome_ofExcept (result : Except Failure α) (session : Session) :
    outcome (MonadExcept.ofExcept result) session = (result, session) := by
  cases result <;> rfl

theorem outcome_onStore (change : Store.Change Unit) (session : Session) : outcome (Action.onStore change) session =
    ((change.on session.world.store).1.mapError fun error => .fault (.store error),
      { session with world := { session.world with store := (change.on session.world.store).2 } }) := by
  simp only [Action.onStore, outcome_bind, outcome_world, andThen_ok, outcome_inWorld, outcome_lift]
  cases (change.on session.world.store).1 <;> simp

theorem outcome_tryCatch (action : Action α) (handler : Failure → Action α) (session : Session) :
    outcome (tryCatch action handler) session = (match (outcome action session).1 with
      | .ok value => (.ok value, (outcome action session).2)
      | .error failure => outcome (handler failure) (outcome action session).2) := by
  simp only [outcome, ExceptT.run_tryCatch, StateT.run_bind]
  cases action.run.run session with
  | mk result after => cases result <;> rfl

theorem outcome_map (action : Action α) (f : α → β) (session : Session) :
    outcome (action >>= fun value => pure (f value)) session =
      ((outcome action session).1.map f, (outcome action session).2) := by
  rw [outcome_bind]
  cases outcome action session with
  | mk result after => cases result <;> rfl

/-- The action ends with a value and leaves the second session. -/
def Returns (action : Action α) (before : Session) (value : α) (after : Session) : Prop :=
  outcome action before = (.ok value, after)

theorem outcome_behind {action : Action α} {next : α → Action β} {before middle : Session} {value : α}
    (first : Returns action before value middle) : outcome (action >>= next) before = outcome (next value) middle := by
  rw [outcome_bind, show outcome action before = (.ok value, middle) from first, andThen_ok]

theorem returns_pure {value found : α} {before after : Session} :
    Returns (pure value) before found after ↔ found = value ∧ after = before := by
  simp [Returns, eq_comm]

theorem returns_bind {action : Action α} {next : α → Action β} {before after : Session} {value : β} :
    Returns (action >>= next) before value after ↔
      ∃ first middle, Returns action before first middle ∧ Returns (next first) middle value after := by
  unfold Returns
  rw [outcome_bind]
  cases run : outcome action before with
  | mk result middle =>
    cases result with
    | error failure => simp
    | ok first =>
      constructor
      · intro rest
        exact ⟨first, middle, rfl, rest⟩
      · rintro ⟨_, _, same, rest⟩
        cases same
        exact rest

theorem returns_map {action : Action α} {f : α → β} {before after : Session} {value : β} :
    Returns (action >>= fun first => pure (f first)) before value after ↔
      ∃ first, Returns action before first after ∧ value = f first := by
  rw [returns_bind]
  constructor
  · rintro ⟨first, middle, run, rest⟩
    obtain ⟨rfl, rfl⟩ := returns_pure.mp rest
    exact ⟨first, run, rfl⟩
  · rintro ⟨first, run, rfl⟩
    exact ⟨first, after, run, returns_pure.mpr ⟨rfl, rfl⟩⟩

theorem returns_lift {result : Except Fault α} {before after : Session} {value : α} :
    Returns (Action.lift result) before value after ↔ result = .ok value ∧ after = before := by
  rw [Returns, outcome_lift]
  cases result with
  | error fault => simp
  | ok found => simp [eq_comm]

theorem returns_onStore {change : Store.Change Unit} {before after : Session} : Returns (Action.onStore change) before () after ↔
    ∃ store, change.on before.world.store = (.ok (), store) ∧ after = { before with world := { before.world with store } } := by
  rw [Returns, outcome_onStore]
  cases change.on before.world.store with
  | mk result store =>
    cases result with
    | error error => simp
    | ok done => simp [eq_comm]

/-- Whatever comes of the action, it leads from a session to one that is related to it. -/
def Leads (related : Session → Session → Prop) (action : Action α) : Prop :=
  ∀ session, related session (outcome action session).2

section Leading

variable {related : Session → Session → Prop} [IsPreorder Session related] {action : Action α}

theorem leads_pure (value : α) : Leads related (pure value) := fun session => refl session

theorem leads_throw (failure : Failure) : Leads related (throw failure : Action α) := fun session => refl session

theorem leads_lift (result : Except Fault α) : Leads related (Action.lift result) := by
  cases result with
  | ok value => exact leads_pure value
  | error fault => exact leads_throw _

theorem leads_ofExcept (result : Except Failure α) : Leads related (MonadExcept.ofExcept result : Action α) := by
  cases result with
  | ok value => exact leads_pure value
  | error failure => exact leads_throw failure

theorem leads_world : Leads related Action.world := fun session => refl session

theorem leads_bind {next : α → Action β} (first : Leads related action) (rest : ∀ value, Leads related (next value)) :
    Leads related (action >>= next) := by
  intro session
  have reached := first session
  rw [outcome_bind]
  cases run : outcome action session with
  | mk result after =>
    rw [run] at reached
    cases result with
    | error failure => exact reached
    | ok value => exact IsTrans.trans _ _ _ reached (rest value after)

theorem leads_forM {items : List β} {each : β → Action PUnit} (leads : ∀ item, Leads related (each item)) :
    Leads related (items.forM each) := by
  induction items with
  | nil => exact leads_pure _
  | cons item rest ih => exact leads_bind (leads item) fun _ => ih

theorem leads_tryCatch {handler : Failure → Action α} (first : Leads related action)
    (rest : ∀ failure, Leads related (handler failure)) : Leads related (tryCatch action handler) := by
  intro session
  have reached := first session
  rw [outcome_tryCatch]
  cases run : outcome action session with
  | mk result after =>
    rw [run] at reached
    cases result with
    | ok value => exact reached
    | error failure => exact IsTrans.trans _ _ _ reached (rest failure after)

end Leading

end TermStyle.Proofs.ActionRun
