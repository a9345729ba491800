import TermStyle.Text.Blank

/-! Texts cut at separators. What stands in front of a separator and what stands behind it are cut each by itself, so
it does not matter how many separators stand between two runs, or which. Every text is laid out as its runs with
separators around them, and the runs are read off any such layout. What is stripped off a text only stands around it. -/

namespace TermStyle.Proofs.SeparatedText
open Text.Blank

variable {separator : Char → Bool}

theorem fields_separator {c : Char} (cuts : separator c = true) (back : List Char) :
    fields separator (c :: back) = fields separator back := by
  rw [fields, if_pos cuts]

theorem fields_run_ahead {text : List Char} (goesOn : pauses separator text = false) :
    ∃ run runs, fields separator text = run :: runs := by
  cases text with
  | nil => cases goesOn
  | cons c rest =>
    have plain : ¬ separator c = true := by simpa [pauses] using goesOn
    rw [fields, if_neg plain]
    split
    · exact ⟨_, _, rfl⟩
    · split
      · exact ⟨_, _, rfl⟩
      · exact ⟨_, _, rfl⟩

/-- The two sides of a separator have nothing to do with each other. -/
theorem fields_cut (front : List Char) {c : Char} (cuts : separator c = true) (back : List Char) :
    fields separator (front ++ c :: back) = fields separator front ++ fields separator back := by
  induction front with
  | nil => exact fields_separator cuts back
  | cons d rest ih =>
    by_cases splits : separator d = true
    · rw [List.cons_append, fields_separator splits, fields_separator splits, ih]
    · have same : pauses separator (rest ++ c :: back) = pauses separator rest := by
        cases rest with
        | nil => exact cuts
        | cons e more => rfl
      rw [List.cons_append, fields, fields, if_neg splits, if_neg splits, same, ih]
      cases pausing : pauses separator rest with
      | true => rfl
      | false =>
        obtain ⟨run, runs, found⟩ := fields_run_ahead pausing
        rw [found]
        rfl

theorem fields_gap {gap : List Char} (cuts : ∀ c ∈ gap, separator c = true) (back : List Char) :
    fields separator (gap ++ back) = fields separator back := by
  induction gap with
  | nil => rfl
  | cons c rest ih =>
    rw [List.cons_append, fields_separator (cuts c (by simp))]
    exact ih fun d member => cuts d (by simp [member])

theorem fields_apart (front : List Char) {gap : List Char} (filled : gap ≠ []) (cuts : ∀ c ∈ gap, separator c = true)
    (back : List Char) : fields separator (front ++ (gap ++ back)) = fields separator front ++ fields separator back := by
  obtain ⟨c, rest, rfl⟩ := List.exists_cons_of_ne_nil filled
  rw [List.cons_append, fields_cut front (cuts c (by simp)), fields_gap fun d member => cuts d (by simp [member])]

theorem fields_intercalate {c : Char} (cuts : separator c = true) (texts : List (List Char)) :
    fields separator ([c].intercalate texts) = texts.flatMap (fields separator) := by
  induction texts with
  | nil => rfl
  | cons text rest ih =>
    cases rest with
    | nil => simp
    | cons next more =>
      rw [List.intercalate_cons_cons, List.append_assoc, List.singleton_append, fields_cut _ cuts, ih]
      rfl

/-- Runs one after another, each with what stands behind it. -/
def laidOut (pieces : List (List Char × List Char)) : List Char := pieces.flatMap fun piece => piece.1 ++ piece.2

/-- What stands behind a run are separators, and only behind the last run may there be none. -/
structure Spaced (separator : Char → Bool) (pieces : List (List Char × List Char)) : Prop where
  filled : ∀ piece ∈ pieces, piece.1 ≠ []
  whole : ∀ piece ∈ pieces, ∀ c ∈ piece.1, separator c = false
  gap : ∀ piece ∈ pieces, ∀ c ∈ piece.2, separator c = true
  apart : ∀ piece ∈ pieces.dropLast, piece.2 ≠ []

section Layout

variable {piece : List Char × List Char} {pieces : List (List Char × List Char)}

theorem Spaced.nil : Spaced separator [] := ⟨by simp, by simp, by simp, by simp⟩

theorem Spaced.tail (spaced : Spaced separator (piece :: pieces)) : Spaced separator pieces := by
  refine ⟨(List.forall_mem_cons.mp spaced.filled).2, (List.forall_mem_cons.mp spaced.whole).2,
    (List.forall_mem_cons.mp spaced.gap).2, ?_⟩
  intro other member
  apply spaced.apart
  cases pieces with
  | nil => cases member
  | cons next more => exact List.mem_cons_of_mem _ member

theorem Spaced.cons (spaced : Spaced separator pieces) (filled : piece.1 ≠ [])
    (whole : ∀ c ∈ piece.1, separator c = false) (gap : ∀ c ∈ piece.2, separator c = true)
    (apart : pieces ≠ [] → piece.2 ≠ []) : Spaced separator (piece :: pieces) := by
  refine ⟨List.forall_mem_cons.mpr ⟨filled, spaced.filled⟩, List.forall_mem_cons.mpr ⟨whole, spaced.whole⟩,
    List.forall_mem_cons.mpr ⟨gap, spaced.gap⟩, ?_⟩
  cases pieces with
  | nil => simp
  | cons next more => exact List.forall_mem_cons.mpr ⟨apart (by simp), spaced.apart⟩

theorem fields_laidOut (spaced : Spaced separator pieces) : fields separator (laidOut pieces) = pieces.map Prod.fst := by
  induction pieces with
  | nil => rfl
  | cons piece rest ih =>
    have single : fields separator piece.1 = [piece.1] :=
      fields_run (spaced.filled piece (by simp)) (spaced.whole piece (by simp))
    have cuts := spaced.gap piece (by simp)
    have later := ih spaced.tail
    rw [laidOut, List.flatMap_cons, List.append_assoc, ← laidOut]
    by_cases joined : piece.2 = []
    · -- Only the last run may have no separator behind it.
      have last : rest = [] := by
        cases rest with
        | nil => rfl
        | cons next more => exact absurd joined (spaced.apart piece (by simp))
      subst last
      simp [joined, laidOut, single]
    · rw [fields_apart _ joined cuts, single, later]
      rfl

theorem exists_laidOut (separator : Char → Bool) (text : List Char) :
    ∃ front pieces, (∀ c ∈ front, separator c = true) ∧ Spaced separator pieces ∧ text = front ++ laidOut pieces := by
  induction text with
  | nil => exact ⟨[], [], by simp, .nil, rfl⟩
  | cons c rest ih =>
    obtain ⟨front, pieces, cuts, spaced, rfl⟩ := ih
    by_cases splits : separator c = true
    · exact ⟨c :: front, pieces, List.forall_mem_cons.mpr ⟨splits, cuts⟩, spaced, rfl⟩
    · have plain : separator c = false := Bool.eq_false_iff.mpr splits
      cases front with
      | cons d more =>
        refine ⟨[], ([c], d :: more) :: pieces, by simp, ?_, rfl⟩
        exact spaced.cons (by simp) (by simpa using plain) cuts (by simp)
      | nil =>
        cases pieces with
        | nil =>
          refine ⟨[], [([c], [])], by simp, ?_, rfl⟩
          exact Spaced.nil.cons (by simp) (by simpa using plain) (by simp) (by simp)
        | cons piece others =>
          refine ⟨[], (c :: piece.1, piece.2) :: others, by simp, ?_, rfl⟩
          have whole : ∀ d ∈ c :: piece.1, separator d = false :=
            List.forall_mem_cons.mpr ⟨plain, spaced.whole piece (by simp)⟩
          refine spaced.tail.cons (by simp) whole (spaced.gap piece (by simp)) ?_
          intro more
          obtain ⟨next, behind, rfl⟩ := List.exists_cons_of_ne_nil more
          exact spaced.apart piece (by simp)

end Layout

section Stripping

variable {skip : Char → Bool} {gap front : List Char}

/-- Of what begins with a character that stays, only the end is stripped. -/
theorem stripBy_gap (opening : ∀ c ∈ gap, skip c = true) (head : ∃ c rest, front = c :: rest ∧ skip c = false)
    (behind : List Char) : stripBy skip (gap ++ (front ++ behind)) = ((front ++ behind).reverse.dropWhile skip).reverse := by
  have leading : (front ++ behind).dropWhile skip = front ++ behind := by
    obtain ⟨c, rest, rfl, stays⟩ := head
    exact List.dropWhile_cons_of_neg (by simp [stays])
  rw [stripBy, List.dropWhile_append_of_pos opening, leading]

theorem stripBy_core {core back : List Char} (opening : ∀ c ∈ gap, skip c = true) (closing : ∀ c ∈ back, skip c = true)
    (head : ∃ c rest, core = c :: rest ∧ skip c = false) (final : ∃ start c, core = start ++ [c] ∧ skip c = false) :
    stripBy skip (gap ++ (core ++ back)) = core := by
  have trailing : core.reverse.dropWhile skip = core.reverse := by
    obtain ⟨start, c, rfl, stays⟩ := final
    rw [List.reverse_concat]
    exact List.dropWhile_cons_of_neg (by simp [stays])
  have behind : ∀ c ∈ back.reverse, skip c = true := fun c member => closing c (List.mem_reverse.mp member)
  rw [stripBy_gap opening head, List.reverse_append, List.dropWhile_append_of_pos behind, trailing, List.reverse_reverse]

/-- What stands in front of a character that stays is not reached from the end. -/
theorem stripBy_around {b : Char} (opening : ∀ c ∈ gap, skip c = true) (head : ∃ c rest, front = c :: rest ∧ skip c = false)
    (stays : skip b = false) (behind : List Char) :
    stripBy skip (gap ++ (front ++ b :: behind)) = front ++ b :: (behind.reverse.dropWhile skip).reverse := by
  have trailing (rest : List Char) :
      (behind.reverse ++ b :: rest).dropWhile skip = behind.reverse.dropWhile skip ++ b :: rest := by
    rw [List.dropWhile_append]
    split
    next empty => simp [List.isEmpty_iff.mp empty, stays]
    next => rfl
  rw [stripBy_gap opening head, List.reverse_append, List.reverse_cons, List.append_assoc, List.singleton_append, trailing,
    List.reverse_append, List.reverse_cons, List.reverse_reverse, List.append_assoc, List.singleton_append]

end Stripping

end TermStyle.Proofs.SeparatedText
