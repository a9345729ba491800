import TermStyle.Proofs.ExceptSteps
import TermStyle.Proofs.NormalPath

/-! Reading a file that was put in place. Whatever was there before, the file has its content under the name it was given,
and is found under the normal text of that name. -/

namespace TermStyle.Proofs.SavedFile
open Store ExceptSteps NormalPath

variable {store : Store} {here there place : Location} {content : ByteArray} {name : String}

theorem lookup_put (store : Store) (place : Location) (node : Node) : (store.put place node).nodes.lookup place = some node := by
  unfold Store.put
  split
  next known =>
    generalize store.nodes = nodes at known
    induction nodes with
    | nil => cases known
    | cons entry rest ih =>
      obtain ⟨key, old⟩ := entry
      by_cases same : key = place
      · simp [same]
      · have later : (rest.any fun entry => entry.1 == place) = true := by simpa [same] using known
        have other : (place == key) = false := beq_false_of_ne (Ne.symm same)
        simpa [same, List.lookup_cons, other] using ih later
  next unknown =>
    have absent : store.nodes.lookup place = none := by
      refine List.lookup_eq_none_iff.mpr fun entry member => ?_
      refine bne_iff_ne.mpr fun same => unknown (List.any_eq_true.mpr ⟨entry, member, ?_⟩)
      exact beq_iff_eq.mpr same.symm
    simp [List.lookup_append, absent]

theorem lookup_other {node : Node} (other : there ≠ place) :
    (store.put place node).nodes.lookup there = store.nodes.lookup there := by
  have unlike : (there == place) = false := beq_false_of_ne other
  unfold Store.put
  split
  · generalize store.nodes = nodes
    induction nodes with
    | nil => rfl
    | cons entry rest ih =>
      obtain ⟨key, old⟩ := entry
      by_cases same : key = place
      · simpa [same, List.lookup_cons, unlike] using ih
      · have kept : (key == place) = false := beq_false_of_ne same
        rw [List.map_cons, kept, List.lookup_cons, List.lookup_cons, ih]
        rfl
  · simp [List.lookup_append, List.lookup_cons, unlike]

theorem node_other {node : Node} (other : there ≠ place) : (store.put place node).node? there = store.node? there := by
  rw [node?, node?, lookup_other other]

/-- Where something is that is no directory, no way leads through it. -/
theorem step_put (closed : store.node? place ≠ some .directory) {part : String} (stepped : store.step here part = .ok there) :
    (store.put place (.file content)).step here part = .ok there := by
  have other : here ≠ place := by
    rintro rfl
    unfold Store.step at stepped
    split at stepped
    · cases stepped
    · cases stepped
    next open_ => exact closed open_
  rw [Store.step, node_other other]
  exact stepped

theorem walk_put (closed : store.node? place ≠ some .directory) {parts : List String}
    (walked : parts.foldlM store.step here = .ok there) :
    parts.foldlM (store.put place (.file content)).step here = .ok there := by
  induction parts generalizing here with
  | nil => exact walked
  | cons part rest ih =>
    obtain ⟨middle, stepped, further⟩ := bind_ok_iff.mp walked
    exact bind_ok_iff.mpr ⟨middle, step_put closed stepped, ih further⟩

/-- A stretch without a name can be gone from a directory only, and leads nowhere else. -/
theorem step_unnamed {part : String} (unnamed : Path.isNamed part = false) :
    store.step here part = .ok there ↔ store.node? here = some .directory ∧ there = here := by
  have still : part = "" ∨ part = "." := by
    by_contra other
    obtain ⟨filled, undotted⟩ := not_or.mp other
    simp [Path.isNamed, filled, undotted] at unnamed
  unfold Store.step
  split
  next none => simp [none]
  next file => simp [file]
  next opened => simp [opened, still, eq_comm]

/-- What has no name can be left out of a way. -/
theorem walk_named {parts : List String} (walked : parts.foldlM store.step here = .ok there) :
    (parts.filter Path.isNamed).foldlM store.step here = .ok there := by
  induction parts generalizing here with
  | nil => exact walked
  | cons part rest ih =>
    obtain ⟨middle, stepped, further⟩ := bind_ok_iff.mp walked
    cases named : Path.isNamed part with
    | true =>
      rw [List.filter_cons_of_pos named]
      exact bind_ok_iff.mpr ⟨middle, stepped, ih further⟩
    | false =>
      obtain ⟨_, rfl⟩ := (step_unnamed named).mp stepped
      rw [List.filter_cons_of_neg (by simp [named])]
      exact ih further

theorem walk_unnamed (opened : store.node? here = some .directory) {lead parts : List String}
    (unnamed : ∀ part ∈ lead, Path.isNamed part = false) (walked : parts.foldlM store.step here = .ok there) :
    (lead ++ parts).foldlM store.step here = .ok there := by
  induction lead with
  | nil => exact walked
  | cons part rest ih =>
    refine bind_ok_iff.mpr ⟨here, (step_unnamed (unnamed part (by simp))).mpr ⟨opened, rfl⟩, ih fun other member => ?_⟩
    exact unnamed other (by simp [member])

/-- The normal text of a name leads where the name leads. -/
theorem locate_text (located : store.locate name = .ok place) : store.locate (Path.ofText name).text = .ok place := by
  obtain ⟨here, started, walked⟩ := bind_ok_iff.mp located
  obtain ⟨lead, unnamed, stretches⟩ := text_stretches name
  have opened : store.node? here = some .directory := by
    obtain ⟨_, _, _, rfl⟩ := start_ok.mp started
    rfl
  refine bind_ok_iff.mpr ⟨here, start_text started, ?_⟩
  rw [stretches]
  exact walk_unnamed opened unnamed (walk_named walked)

theorem locateFile_ok (located : store.locateFile name = .ok place) : store.locate name = .ok place := by
  unfold locateFile at located
  dsimp only at located
  split at located
  · exact located
  · obtain ⟨_, _, further⟩ := bind_ok_iff.mp located
    obtain ⟨_, _, further⟩ := bind_ok_iff.mp further
    obtain ⟨_, _, further⟩ := bind_ok_iff.mp further
    cases further

theorem write_ok {after : Store} (written : store.write name content = .ok after) :
    ∃ place, store.locate name = .ok place ∧ store.node? place ≠ some .directory ∧ after = store.put place (.file content) := by
  obtain ⟨place, located, further⟩ := bind_ok_iff.mp written
  refine ⟨place, locateFile_ok located, ?_⟩
  split at further
  · cases further
  next old file =>
    cases further
    exact ⟨by simp [file], rfl⟩
  next none =>
    cases further
    exact ⟨by simp [none], rfl⟩

theorem locate_put (closed : store.node? place ≠ some .directory) (located : store.locate name = .ok there) :
    (store.put place (.file content)).locate name = .ok there := by
  obtain ⟨here, started, walked⟩ := bind_ok_iff.mp located
  exact bind_ok_iff.mpr ⟨here, started, walk_put closed walked⟩

theorem node_put {node : Node} (closed : store.node? place ≠ some .directory) : (store.put place node).node? place = some node := by
  have inside : place.isOutside = false := by
    by_contra outside
    exact closed (by rw [node?, if_pos (by simpa using outside)])
  rw [node?, inside, lookup_put]
  rfl

/-- What was written is there, and under the normal text of its name something is. -/
theorem written_read {after : Store} (written : store.write name content = .ok after) :
    after.read name = .ok content ∧ after.exists? (Path.ofText name).text = .ok true ∧ name ≠ "" := by
  obtain ⟨place, located, closed, rfl⟩ := write_ok written
  have found : (store.put place (.file content)).locate name = .ok place := locate_put closed located
  have file := @node_put store place (.file content) closed
  refine ⟨?_, ?_, ?_⟩
  · rw [Store.read, found]
    simp only [bind, Except.bind, file]
    rfl
  · rw [Store.exists?, locate_text found]
    dsimp only
    rw [file]
    rfl
  · rintro rfl
    obtain ⟨_, started, _⟩ := bind_ok_iff.mp located
    cases started

theorem once_on (step : Store → Except Error Store) (store : Store) :
    (Change.once step).on store = match step store with
      | .ok after => (.ok (), after)
      | .error error => (.error error, store) := by
  have taken : (ExceptT.run (get : Change Store)).run store = pure (.ok store, store) := rfl
  unfold Change.on Change.once
  rw [ExceptT.run_bind, StateT.run_bind, taken, pure_bind]
  dsimp only
  cases step store <;> rfl

theorem install_ok {after : Store} (installed : Change.on store (install name content) = (.ok (), after)) :
    ∃ middle, Change.on store (ensureParent name) = (.ok (), middle) ∧ middle.write name content = .ok after := by
  unfold Change.on install at installed
  rw [ExceptT.run_bind, StateT.run_bind] at installed
  cases made : (ensureParent name).run.run store with
  | mk result middle =>
    rw [made] at installed
    cases result with
    | error error => cases installed
    | ok _ =>
      change (Change.once (·.write name content)).on middle = (.ok (), after) at installed
      rw [once_on] at installed
      split at installed
      next written =>
        cases installed
        exact ⟨middle, made, written⟩
      · cases installed

theorem installed_read {after : Store} (installed : Change.on store (install name content) = (.ok (), after)) :
    after.read name = .ok content ∧ after.exists? (Path.ofText name).text = .ok true ∧ name ≠ "" := by
  obtain ⟨_, _, written⟩ := install_ok installed
  exact written_read written

end TermStyle.Proofs.SavedFile
