import TermStyle.Proofs.ExceptSteps

/-! Steps that change a state or fail. A step that ends well is taken apart at each bind, and what is true of a state
stays true behind a step whose parts all keep it. -/

namespace TermStyle.Proofs.StateSteps
open ExceptSteps

variable {σ ε α β : Type}

/-- The step ends with a value and leaves the second state. -/
def Ends (step : StateT σ (Except ε) α) (before : σ) (value : α) (after : σ) : Prop :=
  step.run before = .ok (value, after)

theorem ends_pure {value found : α} {before after : σ} :
    Ends (pure value : StateT σ (Except ε) α) before found after ↔ found = value ∧ after = before := by
  change Except.ok (value, before) = .ok (found, after) ↔ _
  simp [eq_comm]

theorem ends_bind {step : StateT σ (Except ε) α} {next : α → StateT σ (Except ε) β} {before after : σ} {value : β} :
    Ends (step >>= next) before value after ↔
      ∃ first middle, Ends step before first middle ∧ Ends (next first) middle value after := by
  unfold Ends
  rw [StateT.run_bind, bind_ok_iff]
  exact Prod.exists

theorem Ends.bind {step : StateT σ (Except ε) α} {next : α → StateT σ (Except ε) β} {before middle after : σ} {first : α}
    {value : β} (one : Ends step before first middle) (rest : Ends (next first) middle value after) :
    Ends (step >>= next) before value after := ends_bind.mpr ⟨first, middle, one, rest⟩

theorem ends_map {step : StateT σ (Except ε) α} {f : α → β} {before after : σ} {value : β} :
    Ends (f <$> step) before value after ↔ ∃ first, Ends step before first after ∧ value = f first := by
  rw [← bind_pure_comp, ends_bind]
  constructor
  · rintro ⟨first, middle, run, rest⟩
    obtain ⟨rfl, rfl⟩ := ends_pure.mp rest
    exact ⟨first, run, rfl⟩
  · rintro ⟨first, run, rfl⟩
    exact ⟨first, after, run, ends_pure.mpr ⟨rfl, rfl⟩⟩

theorem ends_get {before after found : σ} :
    Ends (get : StateT σ (Except ε) σ) before found after ↔ found = before ∧ after = before := ends_pure

theorem ends_set {state before after : σ} :
    Ends (set state : StateT σ (Except ε) PUnit) before ⟨⟩ after ↔ after = state := by
  change Except.ok (PUnit.unit, state) = .ok (PUnit.unit, after) ↔ _
  simp [eq_comm]

theorem ends_modify {change : σ → σ} {before after : σ} :
    Ends (modify change : StateT σ (Except ε) PUnit) before ⟨⟩ after ↔ after = change before := by
  change Except.ok (PUnit.unit, change before) = .ok (PUnit.unit, after) ↔ _
  simp [eq_comm]

theorem ends_throw {error : ε} {before after : σ} {value : α} :
    ¬ Ends (throw error : StateT σ (Except ε) α) before value after := nofun

/-- What is true of a state stays true. -/
def Keeps (kept : σ → Prop) (step : StateT σ (Except ε) α) : Prop :=
  ∀ before value after, kept before → Ends step before value after → kept after

variable {kept : σ → Prop} {step : StateT σ (Except ε) α}

theorem keeps_pure (value : α) : Keeps kept (pure value : StateT σ (Except ε) α) := by
  intro before found after holds ends
  obtain ⟨_, rfl⟩ := ends_pure.mp ends
  exact holds

theorem keeps_throw (error : ε) : Keeps kept (throw error : StateT σ (Except ε) α) := nofun

theorem keeps_get : Keeps kept (get : StateT σ (Except ε) σ) := by
  intro before found after holds ends
  obtain ⟨_, rfl⟩ := ends_get.mp ends
  exact holds

theorem keeps_modify {change : σ → σ} (keeps : ∀ state, kept state → kept (change state)) :
    Keeps kept (modify change : StateT σ (Except ε) PUnit) := by
  intro before value after holds ends
  obtain rfl := ends_modify.mp ends
  exact keeps before holds

theorem keeps_bind {next : α → StateT σ (Except ε) β} (first : Keeps kept step) (rest : ∀ value, Keeps kept (next value)) :
    Keeps kept (step >>= next) := by
  intro before value after holds ends
  obtain ⟨found, middle, run, further⟩ := ends_bind.mp ends
  exact rest found middle value after (first before found middle holds run) further

theorem keeps_forM {items : List β} {action : β → StateT σ (Except ε) PUnit} (each : ∀ item, Keeps kept (action item)) :
    Keeps kept (items.forM action) := by
  induction items with
  | nil => exact keeps_pure _
  | cons item rest ih => exact keeps_bind (each item) fun _ => ih

theorem keeps_mapM {items : List β} {action : β → StateT σ (Except ε) α} (each : ∀ item, Keeps kept (action item)) :
    Keeps kept (items.mapM action) := by
  induction items with
  | nil => exact keeps_pure _
  | cons item rest ih =>
    rw [List.mapM_cons]
    exact keeps_bind (each item) fun _ => keeps_bind ih fun _ => keeps_pure _

end TermStyle.Proofs.StateSteps
