import TermStyle.Proofs.SavedFile

/-! What putting a file in place leaves alone. Directories are only made where nothing is, so whatever comes of it, every
other place holds what it held, or is a new directory. -/

namespace TermStyle.Proofs.StoreFrame
open Store ExceptSteps SavedFile

/-- What is at a place is what was there, or a new directory. -/
def Spared (before after : Store) (there : Location) : Prop :=
  after.node? there = before.node? there ∨ before.node? there = none ∧ after.node? there = some .directory

/-- Nothing changed but for new directories. -/
def Furnished (before after : Store) : Prop := ∀ there, Spared before after there

instance : IsPreorder Store Furnished where
  refl _ _ := Or.inl rfl
  trans first middle last earlier later there := by
    rcases later there with same | ⟨free, made⟩
    · unfold Spared
      rw [same]
      exact earlier there
    · rcases earlier there with same | ⟨_, made'⟩
      · exact Or.inr ⟨same.symm.trans free, made⟩
      · rw [free] at made'
        cases made'

/-- Whatever comes of the change, it leads from a store to one that is related to it. -/
def Alters (related : Store → Store → Prop) (change : Change α) : Prop := ∀ store, related store (change.run.run store).2

section Altering

variable {related : Store → Store → Prop} {change : Change α}

/-- What comes behind a look at the store may depend on what is seen. -/
theorem alters_get {next : Store → Change β} (rest : ∀ store, related store ((next store).run.run store).2) :
    Alters related (get >>= next) := rest

variable [IsPreorder Store related]

theorem alters_throw (error : Store.Error) : Alters related (throw error : Change α) := fun store => refl store

theorem alters_bind {next : α → Change β} (first : Alters related change) (rest : ∀ value, Alters related (next value)) :
    Alters related (change >>= next) := by
  intro store
  have reached := first store
  rw [ExceptT.run_bind, StateT.run_bind]
  cases run : change.run.run store with
  | mk result middle =>
    rw [run] at reached
    cases result with
    | error error => exact reached
    | ok value => exact IsTrans.trans _ _ _ reached (rest value middle)

theorem alters_once {step : Store → Except Store.Error Store}
    (steps : ∀ {store after}, step store = .ok after → related store after) : Alters related (.once step) := by
  refine alters_get fun store => ?_
  cases stepped : step store with
  | error error => exact refl store
  | ok after => exact steps stepped

end Altering

section Making

variable {store after : Store} {name : String}

theorem put_furnished {place : Location} (free : store.node? place = none) : Furnished store (store.put place .directory) := by
  intro there
  by_cases same : there = place
  · subst same
    have made := @node_put store there .directory (by simp [free])
    exact Or.inr ⟨free, made⟩
  · exact Or.inl (node_other same)

theorem makeDirectory_furnished (made : store.makeDirectory name = .ok after) : Furnished store after := by
  obtain ⟨place, located, further⟩ := bind_ok_iff.mp made
  cases there : store.node? place with
  | some node =>
    simp [there] at further
    cases further
  | none =>
    simp [there] at further
    cases further
    exact put_furnished there

theorem ensureDirectory_furnished (made : store.ensureDirectory name = .ok after) : Furnished store after := by
  unfold ensureDirectory at made
  split at made
  next directory new =>
    cases made
    exact makeDirectory_furnished new
  · obtain ⟨known, _, further⟩ := bind_ok_iff.mp made
    split at further
    · cases further
      exact refl store
    · cases further

/-- The induction is on the directories that may be missing. -/
theorem ensureTree_furnished (fuel : Nat) (path : Path) : Alters Furnished (ensureTree fuel path) := by
  induction fuel generalizing path with
  | zero => exact alters_throw _
  | succ fuel ih =>
    unfold ensureTree
    refine alters_get fun store => ?_
    split
    next made new => exact makeDirectory_furnished new
    next =>
      have above : Alters Furnished (do
          ensureTree fuel path.parent
          Change.once (·.ensureDirectory path.text)) :=
        alters_bind (ih path.parent) fun _ => alters_once ensureDirectory_furnished
      split
      · exact refl store
      · exact above store
    next =>
      refine alters_get (fun found => ?_) store
      split <;> exact refl found

end Making

/-- The file is in the place that its name leads to, and every other place is spared. -/
def Placed (name : String) (content : ByteArray) (before after : Store) : Prop :=
  ∃ place, after.locate name = .ok place ∧ after.node? place = some (.file content) ∧
    ∀ there, there ≠ place → Spared before after there

theorem installed_placed {store after : Store} {name : String} {content : ByteArray}
    (installed : Change.on store (install name content) = (.ok (), after)) : Placed name content store after := by
  obtain ⟨middle, made, written⟩ := install_ok installed
  obtain ⟨place, located, closed, rfl⟩ := write_ok written
  have furnished : Furnished store (Change.on store (ensureParent name)).2 := ensureTree_furnished _ _ store
  rw [made] at furnished
  refine ⟨place, locate_put closed located, node_put closed, fun there other => ?_⟩
  unfold Spared
  rw [node_other other]
  exact furnished there

end TermStyle.Proofs.StoreFrame
