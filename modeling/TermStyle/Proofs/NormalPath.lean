import Mathlib.Data.List.TakeWhile
import Mathlib.Data.String.Basic
import TermStyle.Store

/-! The normal text of a path. It goes through the named parts of the text that it is made from, and says nothing that was
not there: apart from the single dot, its characters are some of those of the text, in their order. -/

namespace TermStyle.Proofs.NormalPath
open Store Store.Path

variable {chars word : List Char} {first second : List (List Char)} {name : String}

def joined (words : List (List Char)) : List Char := ['/'].intercalate words

theorem joined_cons (filled : first ≠ []) : joined (word :: first) = word ++ '/' :: joined first := by
  obtain ⟨next, more, rfl⟩ := List.exists_cons_of_ne_nil filled
  simp [joined]

theorem joined_sublist (part : first.Sublist second) : (joined first).Sublist (joined second) := by
  induction part with
  | slnil => exact List.Sublist.refl _
  | @cons first second word part ih =>
    by_cases filled : second = []
    · subst filled
      rw [List.sublist_nil.mp part]
      exact List.nil_sublist _
    · rw [joined_cons filled]
      exact ih.trans ((List.sublist_cons_self ..).trans (List.sublist_append_right ..))
  | @cons_cons first second word part ih =>
    by_cases filled : second = []
    · subst filled
      rw [List.sublist_nil.mp part]
    · rw [joined_cons filled]
      by_cases some : first = []
      · subst some
        simp [joined]
      · rw [joined_cons some]
        exact (List.Sublist.refl _).append (ih.cons_cons _)

theorem split_slashless (chars : List Char) : ∀ word ∈ chars.splitOn '/', '/' ∉ word := by
  induction chars with
  | nil => simp
  | cons c rest ih =>
    rw [List.splitOn_cons_eq_if_modifyHead]
    split
    · simpa using ih
    next other =>
      have unlike : '/' ≠ c := by
        rintro rfl
        exact other (beq_self_eq_true _)
      intro word member
      cases words : rest.splitOn '/' with
      | nil =>
        rw [words] at member
        cases member
      | cons first more =>
        rw [words] at ih member
        rcases List.mem_cons.mp member with rfl | later
        · exact fun inside => (List.mem_cons.mp inside).elim unlike (ih first (by simp))
        · exact ih word (by simp [later])

theorem split_slashes (count : Nat) (rest : List Char) :
    (List.replicate count '/' ++ rest).splitOn '/' = List.replicate count [] ++ rest.splitOn '/' := by
  induction count with
  | zero => rfl
  | succ count ih =>
    rw [List.replicate_succ, List.cons_append, List.splitOn_cons_eq_if_modifyHead, ih]
    simp [List.replicate_succ]

theorem head_slashes (chars : List Char) :
    ∃ rest, chars = List.replicate (chars.takeWhile (· == '/')).length '/' ++ rest ∧ rest.head? ≠ some '/' := by
  refine ⟨chars.dropWhile (· == '/'), ?_, ?_⟩
  · have slashes : chars.takeWhile (· == '/') = List.replicate (chars.takeWhile (· == '/')).length '/' := by
      refine List.eq_replicate_iff.mpr ⟨rfl, fun c member => ?_⟩
      have slash : (c == '/') = true := @List.mem_takeWhile_imp _ (· == '/') _ _ member
      exact eq_of_beq slash
    rw [← slashes, List.takeWhile_append_dropWhile]
  · intro head
    have stops := List.head?_dropWhile_not (· == '/') chars
    rw [head] at stops
    cases stops

def slashes (name : String) : Nat := (name.toList.takeWhile (· == '/')).length

def rootSlashes (name : String) : Nat := if slashes name = 0 then 0 else if slashes name = 2 then 2 else 1

theorem root_slashes (name : String) : (ofText name).root = .ofList (List.replicate (rootSlashes name) '/') := by
  change (if slashes name = 0 then "" else if slashes name = 2 then "//" else "/") = _
  unfold rootSlashes
  split
  · rfl
  · split <;> rfl

theorem rootSlashes_le (name : String) : rootSlashes name ≤ slashes name := by
  unfold rootSlashes
  split
  · omega
  · split <;> omega

def partWords (name : String) : List (List Char) := (name.toList.splitOn '/').filter fun word => isNamed (.ofList word)

theorem parts_words (name : String) : (ofText name).parts = (partWords name).map .ofList := by
  change ((name.toList.splitOn '/').map String.ofList).filter isNamed = _
  rw [List.filter_map, partWords]
  rfl

theorem words_slashless (name : String) : ∀ word ∈ partWords name, '/' ∉ word :=
  fun word member => split_slashless name.toList word (List.mem_filter.mp member).1

/-- The normal text, unless it is a single dot. -/
theorem text_words {name : String} (rooted : ¬ ((ofText name).root = "" ∧ (ofText name).parts = [])) :
    (ofText name).text.toList = List.replicate (rootSlashes name) '/' ++ joined (partWords name) := by
  rw [Path.text, if_neg rooted, String.toList_append, root_slashes, String.toList_ofList, String.toList_intercalate, parts_words]
  simp [joined]

theorem text_sublist {name : String} (rooted : ¬ ((ofText name).root = "" ∧ (ofText name).parts = [])) :
    (ofText name).text.toList.Sublist name.toList := by
  obtain ⟨rest, same, _⟩ := head_slashes name.toList
  have words : partWords name = (rest.splitOn '/').filter fun word => isNamed (.ofList word) := by
    have unnamed : isNamed (.ofList []) = false := by decide
    rw [partWords, same, split_slashes, List.filter_append, List.filter_replicate, unnamed]
    rfl
  have inside : (joined (partWords name)).Sublist rest := by
    have whole : joined (rest.splitOn '/') = rest := List.intercalate_splitOn '/'
    have part := joined_sublist (List.filter_sublist (p := fun word => isNamed (.ofList word)) (l := rest.splitOn '/'))
    rwa [whole, ← words] at part
  rw [text_words rooted, same]
  exact (List.replicate_sublist_replicate '/' |>.mpr (rootSlashes_le name)).append inside

theorem split_joined (name : String) : ∃ lead, (∀ word ∈ lead, word = []) ∧
    (List.replicate (rootSlashes name) '/' ++ joined (partWords name)).splitOn '/' = lead ++ partWords name := by
  rw [split_slashes]
  by_cases none : partWords name = []
  · refine ⟨List.replicate (rootSlashes name) [] ++ [[]], ?_, ?_⟩
    · intro word member
      rcases List.mem_append.mp member with slash | last
      · exact List.eq_of_mem_replicate slash
      · exact List.mem_singleton.mp last
    · rw [none]
      simp [joined]
  · refine ⟨List.replicate (rootSlashes name) [], fun word member => List.eq_of_mem_replicate member, ?_⟩
    rw [joined, List.splitOn_intercalate '/' (words_slashless name) none]

theorem text_stretches (name : String) : ∃ lead, (∀ part ∈ lead, isNamed part = false) ∧
    stretches (ofText name).text = lead ++ (ofText name).parts := by
  by_cases rooted : (ofText name).root = "" ∧ (ofText name).parts = []
  · refine ⟨["."], by simp [isNamed], ?_⟩
    rw [Path.text, if_pos rooted, rooted.2]
    rfl
  · obtain ⟨lead, unnamed, split⟩ := split_joined name
    refine ⟨lead.map .ofList, ?_, ?_⟩
    · intro part member
      obtain ⟨word, listed, rfl⟩ := List.mem_map.mp member
      rw [unnamed word listed]
      decide
    · rw [stretches, text_words rooted, split, List.map_append, parts_words]

theorem starts_iff (name : String) : name.toList.head? = some '/' ↔ slashes name ≠ 0 := by
  obtain ⟨rest, same, other⟩ := head_slashes name.toList
  change name.toList = List.replicate (slashes name) '/' ++ rest at same
  cases count : slashes name with
  | zero =>
    rw [same, count]
    simpa using other
  | succ count' =>
    rw [same, count]
    simp [List.replicate_succ]

theorem joined_starts {name : String} (some : partWords name ≠ []) : ∃ c rest, joined (partWords name) = c :: rest ∧ c ≠ '/' := by
  obtain ⟨word, more, same⟩ := List.exists_cons_of_ne_nil some
  have listed : word ∈ partWords name := by simp [same]
  have filled : word ≠ [] := by
    rintro rfl
    exact absurd (List.mem_filter.mp listed).2 (by decide)
  obtain ⟨c, rest, rfl⟩ := List.exists_cons_of_ne_nil filled
  have slashless := words_slashless name _ listed
  have other : c ≠ '/' := by
    rintro rfl
    exact slashless (by simp)
  rw [same]
  by_cases last : more = []
  · subst last
    exact ⟨c, rest, by simp [joined], other⟩
  · rw [joined_cons last]
    exact ⟨c, _, rfl, other⟩

theorem words_filled {name : String} (rooted : ¬ ((ofText name).root = "" ∧ (ofText name).parts = []))
    (none : rootSlashes name = 0) : partWords name ≠ [] := by
  intro empty
  refine rooted ⟨?_, ?_⟩
  · rw [root_slashes, none]
    rfl
  · rw [parts_words, empty]
    rfl

theorem rootless_slashes {name : String} (rootless : (ofText name).root = "") : slashes name = 0 := by
  by_contra some
  rw [root_slashes, rootSlashes, if_neg some] at rootless
  split at rootless <;> exact absurd rootless (by decide)

theorem text_starts (name : String) : (ofText name).text.toList.head? = some '/' ↔ name.toList.head? = some '/' := by
  rw [starts_iff name]
  by_cases rooted : (ofText name).root = "" ∧ (ofText name).parts = []
  · rw [Path.text, if_pos rooted]
    simp [rootless_slashes rooted.1]
  · rw [text_words rooted]
    by_cases none : slashes name = 0
    · have count : rootSlashes name = 0 := by rw [rootSlashes, if_pos none]
      obtain ⟨c, rest, same, other⟩ := joined_starts (words_filled rooted count)
      simp [count, none, same, other]
    · have count : rootSlashes name ≠ 0 := by
        rw [rootSlashes, if_neg none]
        split <;> decide
      obtain ⟨fewer, same⟩ := Nat.exists_eq_succ_of_ne_zero count
      simp [same, List.replicate_succ, none]

theorem text_filled (name : String) : (ofText name).text.toList ≠ [] := by
  by_cases rooted : (ofText name).root = "" ∧ (ofText name).parts = []
  · rw [Path.text, if_pos rooted]
    decide
  · rw [text_words rooted]
    intro empty
    obtain ⟨slashless, wordless⟩ := List.append_eq_nil_iff.mp empty
    have none : rootSlashes name = 0 := by simpa using slashless
    obtain ⟨c, rest, same, _⟩ := joined_starts (words_filled rooted none)
    rw [same] at wordless
    cases wordless

theorem size_sublist {first second : String} (part : first.toList.Sublist second.toList) :
    first.utf8ByteSize ≤ second.utf8ByteSize := by
  have sizes := String.utf8Len_le_of_sublist part
  rwa [← String.utf8ByteSize_ofList, ← String.utf8ByteSize_ofList, String.ofList_toList, String.ofList_toList] at sizes

theorem start_ok {name : String} {here : Location} : start name = .ok here ↔ '\x00' ∉ name.toList ∧ name.toList ≠ [] ∧
    name.utf8ByteSize ≤ pathLimit ∧ here = ⟨name.toList.head? == some '/', []⟩ := by
  have empty : name.isEmpty = true ↔ name.toList = [] := by rw [String.isEmpty_iff, String.toList_eq_nil_iff]
  unfold start
  split
  next nul => simp [List.contains_iff_mem.mp nul]
  next clean =>
    split
    next none => simp [empty.mp none]
    next some =>
      split
      next long => simp [long]
      next short =>
        have filled : name.toList ≠ [] := fun none => some (empty.mpr none)
        simp at clean
        simp [clean, filled, Nat.le_of_not_lt short, eq_comm]

/-- Where a text is a name, its normal text is one, and starts at the same place. -/
theorem start_text {name : String} {here : Location} (started : start name = .ok here) :
    start (ofText name).text = .ok here := by
  obtain ⟨clean, filled, short, rfl⟩ := start_ok.mp started
  have starts : ((ofText name).text.toList.head? == some '/') = (name.toList.head? == some '/') := by
    rw [Bool.eq_iff_iff, beq_iff_eq, beq_iff_eq, text_starts]
  by_cases rooted : (ofText name).root = "" ∧ (ofText name).parts = []
  · have dot : (ofText name).text = "." := by rw [Path.text, if_pos rooted]
    refine start_ok.mpr ⟨?_, text_filled name, ?_, by rw [starts]⟩
    · rw [dot]
      decide
    · rw [dot]
      decide
  · have part := text_sublist rooted
    exact start_ok.mpr ⟨fun inside => clean (part.subset inside), text_filled name, Nat.le_trans (size_sublist part) short, by rw [starts]⟩

/-- The normal text starts with the slashes of the root and no more. -/
theorem text_slashes (name : String) : slashes (ofText name).text = rootSlashes name := by
  by_cases rooted : (ofText name).root = "" ∧ (ofText name).parts = []
  · rw [Path.text, if_pos rooted, rootSlashes, if_pos (rootless_slashes rooted.1)]
    decide
  · have behind : (joined (partWords name)).takeWhile (· == '/') = [] := by
      by_cases none : partWords name = []
      · simp [none, joined]
      · obtain ⟨c, rest, same, other⟩ := joined_starts none
        simp [same, other]
    have root : ∀ c ∈ List.replicate (rootSlashes name) '/', (c == '/') = true := fun c member =>
      beq_iff_eq.mpr (List.eq_of_mem_replicate member)
    rw [slashes, text_words rooted, List.takeWhile_append_of_pos root, behind, List.append_nil, List.length_replicate]

theorem rootSlashes_text (name : String) : rootSlashes (ofText name).text = rootSlashes name := by
  rw [rootSlashes, text_slashes, rootSlashes]
  split
  · rfl
  · split <;> rfl

theorem parts_stretches (text : String) : (ofText text).parts = (stretches text).filter isNamed := rfl

theorem path_ext {first second : Path} (root : first.root = second.root) (parts : first.parts = second.parts) :
    first = second := by
  cases first
  cases second
  cases root
  cases parts
  rfl

/-- The normal text of a path is normal. -/
theorem text_normal (name : String) : ofText (ofText name).text = ofText name := by
  have parts : (ofText (ofText name).text).parts = (ofText name).parts := by
    obtain ⟨lead, unnamed, same⟩ := text_stretches name
    have dropped : lead.filter isNamed = [] := List.filter_eq_nil_iff.mpr fun part member => by simp [unnamed part member]
    have kept : (ofText name).parts.filter isNamed = (ofText name).parts :=
      List.filter_eq_self.mpr fun part member => (List.mem_filter.mp member).2
    rw [parts_stretches, same, List.filter_append, dropped, kept, List.nil_append]
  have root : (ofText (ofText name).text).root = (ofText name).root := by
    rw [root_slashes, rootSlashes_text, root_slashes]
  exact path_ext root parts

end TermStyle.Proofs.NormalPath
