import TermStyle.Proofs.StateSteps
import TermStyle.Yaml

/-! The keys of a document. However often a document writes a key, and whatever its merges bring, its mapping has one
entry under a text: a later value takes the place of an earlier one. -/

namespace TermStyle.Proofs.DocumentKeys
open Yaml Yaml.Document StateSteps ExceptSteps

def Distinct (keys : List Value) : Prop := keys.Pairwise fun a b => ∀ name, a = .text name → b ≠ .text name

theorem isSame_text {a b : Key} {name : String} (first : a.value = .text name) (second : b.value = .text name) :
    a.isSame b = true := by
  simp [Key.isSame, first, second]

theorem put_distinct {entries : List (Key × α)} (distinct : Distinct (entries.map (·.1.value))) (entry : Key × α) :
    Distinct ((Key.put entries entry).map (·.1.value)) := by
  unfold Key.put
  split
  · have keys : (entries.map fun known => if known.1.isSame entry.1 then (known.1, entry.2) else known).map (·.1.value) =
        entries.map (·.1.value) := by
      rw [List.map_map]
      apply List.map_congr_left
      intro known _
      dsimp only [Function.comp]
      split <;> rfl
    rw [keys]
    exact distinct
  next unknown =>
    rw [List.map_append]
    apply List.pairwise_append.mpr
    refine ⟨distinct, List.pairwise_singleton _ _, ?_⟩
    intro key member last same name first second
    obtain ⟨known, listed, rfl⟩ := List.mem_map.mp member
    obtain rfl := List.mem_singleton.mp same
    exact unknown (List.any_eq_true.mpr ⟨known, listed, isSame_text first second⟩)

theorem puts_distinct {entries : List (Key × α)} (distinct : Distinct (entries.map (·.1.value))) (more : List (Key × α)) :
    Distinct ((more.foldl Key.put entries).map (·.1.value)) := by
  induction more generalizing entries with
  | nil => exact distinct
  | cons entry rest ih => exact ih (put_distinct distinct entry)

def Tidy : Object → Prop
  | .dict entries => Distinct (entries.map (·.1.value))
  | _ => True

/-- All mappings that are made so far have their keys apart. -/
def Sorted (build : Build) : Prop := ∀ id object, build.objects.getD id none = some object → Tidy object

theorem put_keeps (id : Nat) {object : Object} (tidy : Tidy object) : Keeps Sorted (put id object) := by
  apply keeps_modify
  intro build sorted place found there
  rw [Array.getD_eq_getD_getElem?, Array.getElem?_setIfInBounds] at there
  split at there
  · split at there
    · cases there
      exact tidy
    · cases there
  · rw [← Array.getD_eq_getD_getElem?] at there
    exact sorted place found there

theorem unfilled?_tidy {tag : String} {object : Object} (found : unfilled? tag = some object) : Tidy object := by
  unfold unfilled? at found
  split at found
  · cases found
    trivial
  · split at found
    · cases found
      exact List.Pairwise.nil
    · split at found
      · cases found
        trivial
      · split at found
        · cases found
          trivial
        · cases found

theorem lift_keeps {kept : σ → Prop} (result : Except ε α) : Keeps kept (liftM result : StateT σ (Except ε) α) := by
  intro before value after holds ends
  cases result with
  | error error => cases ends
  | ok found =>
    cases ends
    exact holds

theorem meet_keeps (id : Nat) : Keeps Sorted (meet id) := by
  unfold meet
  refine keeps_bind keeps_get fun build => ?_
  split
  · exact keeps_pure _
  · dsimp only
    split
    · exact keeps_bind (lift_keeps _) fun _ => put_keeps id trivial
    next object _ found =>
      apply keeps_bind (put_keeps id (unfilled?_tidy found))
      intro _
      apply keeps_modify
      intro build sorted
      exact sorted
    · exact keeps_throw _

theorem keyOf_keeps (id : Nat) : Keeps Sorted (keyOf id) := by
  unfold keyOf
  refine keeps_bind keeps_get fun build => ?_
  split
  · exact keeps_pure _
  · exact keeps_throw _

theorem items_keeps (id : Nat) : Keeps Sorted (items id) := by
  unfold items
  refine keeps_bind keeps_get fun build => ?_
  split
  · exact keeps_pure _
  · exact keeps_throw _

theorem single_keeps (id : Nat) : Keeps Sorted (single id) := by
  unfold single
  refine keeps_bind keeps_get fun build => ?_
  split
  · exact keeps_bind (meet_keeps _) fun _ => keeps_bind (meet_keeps _) fun _ => keeps_pure _
  · exact keeps_throw _

theorem merging_keeps (step : Graph.Merging α) : Keeps Sorted (merging step) := by
  intro before value after sorted ends
  obtain ⟨build, _, start, further⟩ := ends_bind.mp ends
  obtain ⟨rfl, rfl⟩ := ends_get.mp start
  obtain ⟨⟨found, graph⟩, middle, merged, further⟩ := ends_bind.mp further
  obtain ⟨_, last, changed, ending⟩ := ends_bind.mp further
  obtain ⟨_, rfl⟩ := ends_pure.mp ending
  obtain rfl := ends_set.mp changed
  exact sorted

theorem entries_keeps (fuel id : Nat) : Keeps Sorted (entries fuel id) := by
  unfold entries
  refine keeps_bind keeps_get fun build => ?_
  split
  · apply keeps_bind (merging_keeps _)
    intro found
    refine keeps_bind (keeps_mapM ?_) fun _ => keeps_pure _
    rintro ⟨key, value⟩
    exact keeps_bind (meet_keeps key) fun _ => keeps_bind (keyOf_keeps key) fun _ =>
      keeps_bind (meet_keeps value) fun _ => keeps_pure _
  · exact keeps_throw _

theorem entries_distinct {fuel id : Nat} {before after : Build} {found : List (Key × Nat)}
    (ends : Ends (entries fuel id) before found after) : Distinct (found.map (·.1.value)) := by
  unfold entries at ends
  obtain ⟨build, _, _, further⟩ := ends_bind.mp ends
  split at further
  · obtain ⟨_, _, _, further⟩ := ends_bind.mp further
    obtain ⟨_, _, _, ending⟩ := ends_bind.mp further
    obtain ⟨rfl, _⟩ := ends_pure.mp ending
    have none : Distinct (([] : List (Key × Nat)).map (·.1.value)) := List.Pairwise.nil
    exact puts_distinct none _
  · exact absurd further ends_throw

theorem fill_keeps (fuel id : Nat) : Keeps Sorted (fill fuel id) := by
  unfold fill
  refine keeps_bind keeps_get fun build => ?_
  split
  · exact keeps_bind (items_keeps id) fun items =>
      keeps_bind (keeps_forM meet_keeps) fun _ => put_keeps id trivial
  · -- What is put here are entries, which have their keys apart wherever they come from.
    intro before value after sorted ends
    obtain ⟨found, middle, made, placed⟩ := ends_bind.mp ends
    have tidy : Tidy (.dict found) := entries_distinct made
    exact put_keeps id tidy middle value after (entries_keeps fuel id before found middle sorted made) placed
  · exact keeps_bind (entries_keeps fuel id) fun _ => put_keeps id trivial
  · exact keeps_bind (items_keeps id) fun _ => keeps_bind (keeps_mapM single_keeps) fun _ => put_keeps id trivial
  · exact keeps_pure _

theorem fillAll_keeps (merges fuel : Nat) : Keeps Sorted (fillAll merges fuel) := by
  induction fuel with
  | zero => exact keeps_pure _
  | succ fuel ih =>
    refine keeps_bind keeps_get fun build => ?_
    dsimp only
    split
    · exact keeps_pure _
    · apply keeps_bind
      · apply keeps_modify
        intro build sorted
        exact sorted
      · exact fun _ => keeps_bind (keeps_forM (fill_keeps merges)) fun _ => ih

theorem ofGraph_sorted {graph : Graph} {root : Nat} {document : Document} (made : ofGraph graph root = .ok document)
    {id : Nat} {object : Object} (there : document.objects.getD id none = some object) : Tidy object := by
  obtain ⟨⟨_, build⟩, ran, same⟩ := bind_ok_iff.mp made
  cases same
  obtain ⟨_, middle, met, filled⟩ := ends_bind.mp ran
  have start : Sorted ⟨graph, graph.nodes.map fun _ => none, []⟩ := by
    intro place found there
    simp only [Array.getD_eq_getD_getElem?, Array.getElem?_map] at there
    cases nodes : graph.nodes[place]? with
    | none => simp [nodes] at there
    | some node => simp [nodes] at there
  exact fillAll_keeps _ _ middle _ build (meet_keeps root _ _ middle start met) filled id object there

theorem entries?_distinct {document : Document} (tidy : Tidy (document.object document.root))
    {entries : List (Value × Nat)} (found : document.entries? = some entries) : Distinct (entries.map (·.1)) := by
  have none? : ∀ {isEmpty : Bool}, (if isEmpty then some [] else none) = some entries → Distinct (entries.map (·.1)) := by
    intro isEmpty same
    cases isEmpty with
    | false => cases same
    | true =>
      cases same
      exact List.Pairwise.nil
  unfold Document.entries? at found
  dsimp only at found
  split at found
  next known same =>
    cases found
    rw [same] at tidy
    rw [List.map_map]
    exact tidy
  · exact none? found
  · exact none? found
  · exact none? found
  · exact none? found

theorem object_tidy {graph : Graph} {root : Nat} {document : Document} (made : ofGraph graph root = .ok document) (id : Nat) :
    Tidy (document.object id) := by
  unfold Document.object
  cases there : document.objects.getD id none with
  | none => trivial
  | some object => exact ofGraph_sorted made there

theorem read_distinct {content : ByteArray} {document : Document} (read : Yaml.read content = .ok document)
    {entries : List (Value × Nat)} (found : document.entries? = some entries) : Distinct (entries.map (·.1)) := by
  obtain ⟨⟨graph, root⟩, _, meant⟩ := bind_ok_iff.mp read
  apply entries?_distinct _ found
  cases root with
  | none =>
    cases meant
    trivial
  | some root => exact object_tidy meant _

end TermStyle.Proofs.DocumentKeys
