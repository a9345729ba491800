import Mathlib.Data.List.TakeWhile
import TermStyle.Proofs.StateSteps
import TermStyle.Yaml.Scalar

/-! Scans over a text that is all there. A scan that stands in front of what it looks for takes it and nothing else. -/

namespace TermStyle.Proofs.ScanRun
open Yaml Scan StateSteps

/-- A character of a plain word: a letter, a digit or an underscore. -/
def isWordly (c : Char) : Bool := c.isAlphanum || c == '_'

/-- A character that a scan between two tokens leaves where it is. -/
structure Quiet (c : Char) : Prop where
  noBreak : isBreak c = false
  noMark : c ≠ byteOrderMark
  noBlank : c ≠ ' '
  noHash : c ≠ '#'
  unmarked : ['-', '.'].contains c = false

structure Wordly (c : Char) : Prop extends Quiet c where
  goesOn : endsWord c = false
  noColon : c ≠ ':'
  quoted : Scalar.isQuotedText c = true

theorem isWordly_latin {c : Char} (wordly : isWordly c = true) : c.toNat < 128 := by
  have below {top : Char} (most : decide (c.val ≤ top.val) = true) (latin : top.toNat < 128) : c.toNat < 128 :=
    Nat.lt_of_le_of_lt (UInt32.le_iff_toNat_le.mp (of_decide_eq_true most)) latin
  rcases (Bool.or_eq_true _ _).mp wordly with inside | low
  · rcases (Bool.or_eq_true _ _).mp inside with letter | digit
    · rcases (Bool.or_eq_true _ _).mp letter with upper | lower
      · exact below (decide_eq_true (of_decide_eq_true upper).2) (by decide)
      · exact below ((Bool.and_eq_true _ _).mp lower).2 (by decide)
    · exact below ((Bool.and_eq_true _ _).mp digit).2 (by decide)
  · obtain rfl := beq_iff_eq.mp low
    decide

/-- What is true of all letters, digits and underscores is checked by their codes. -/
@[elab_as_elim]
theorem wordly_forall {motive : Char → Prop} (c : Char) (wordly : isWordly c = true)
    (all : ∀ code < 128, isWordly (Char.ofNat code) = true → motive (Char.ofNat code)) : motive c := by
  have own := all c.toNat (isWordly_latin wordly)
  rw [Char.ofNat_toNat] at own
  exact own wordly

theorem wordly_of {c : Char} (wordly : isWordly c = true) : Wordly c := by
  have facts : isBreak c = false ∧ c ≠ byteOrderMark ∧ c ≠ ' ' ∧ c ≠ '#' ∧ ['-', '.'].contains c = false ∧
      endsWord c = false ∧ c ≠ ':' ∧ Scalar.isQuotedText c = true := by
    refine wordly_forall c wordly ?_
    decide +kernel
  obtain ⟨noBreak, noMark, noBlank, noHash, unmarked, goesOn, noColon, quoted⟩ := facts
  exact ⟨⟨noBreak, noMark, noBlank, noHash, unmarked⟩, goesOn, noColon, quoted⟩

/-- A text that ends here, or goes on with a word. -/
def Fresh (text : List Char) : Prop := ∀ c ∈ text.head?, isWordly c = true

theorem Fresh.quiet {text : List Char} (fresh : Fresh text) : Quiet (text.head?.getD '\x00') := by
  cases text with
  | nil => exact ⟨by decide, by decide, by decide, by decide, by decide⟩
  | cons c rest => exact (wordly_of (fresh c rfl)).toQuiet

variable {cursor : Cursor} {rest tail word : List Char} {c : Char} {size index line column count : Nat}

theorem demand_ends (whole : cursor.lack = none) (count : Nat) : Ends (demand count) cursor ⟨⟩ cursor := by
  refine Ends.bind (ends_get.mpr ⟨rfl, rfl⟩) ?_
  rw [whole]
  exact ends_pure.mpr ⟨rfl, rfl⟩

theorem peekAt_ends (whole : cursor.lack = none) (distance : Nat) :
    Ends (peekAt distance) cursor (cursor.charAt distance) cursor := by
  refine Ends.bind (demand_ends whole _) (Ends.bind (ends_get.mpr ⟨rfl, rfl⟩) ?_)
  exact ends_pure.mpr ⟨rfl, rfl⟩

theorem advance_ends (whole : cursor.lack = none) (count : Nat) : Ends (advance count) cursor ⟨⟩ (cursor.forward count) :=
  Ends.bind (demand_ends whole _) (ends_modify.mpr rfl)

theorem takeWhile_ends (whole : cursor.lack = none) (belongs : Char → Bool) :
    Ends (takeWhile belongs) cursor (cursor.rest.takeWhile belongs) (cursor.forward (cursor.rest.takeWhile belongs).length) := by
  refine Ends.bind (ends_get.mpr ⟨rfl, rfl⟩) (Ends.bind (advance_ends whole _) ?_)
  exact ends_pure.mpr ⟨rfl, rfl⟩

theorem forward_inline (inline : ∀ c ∈ word, isBreak c = false ∧ c ≠ byteOrderMark) :
    Cursor.forward word.length ⟨word ++ tail, none, size, index, line, column⟩ =
      ⟨tail, none, size, index + word.length, line, column + word.length⟩ := by
  induction word generalizing index column with
  | nil => rfl
  | cons c word ih =>
    obtain ⟨noBreak, noMark⟩ := inline c (by simp)
    have step : Cursor.step ⟨c :: (word ++ tail), none, size, index, line, column⟩ =
        ⟨word ++ tail, none, size, index + 1, line, column + 1⟩ := by
      simp [Cursor.step, noBreak, noMark]
    rw [List.length_cons, List.cons_append, Cursor.forward, step, ih fun d member => inline d (by simp [member])]
    simp only [Cursor.mk.injEq, true_and]
    omega

theorem forward_char (noBreak : isBreak c = false) (noMark : c ≠ byteOrderMark) :
    Cursor.forward 1 ⟨c :: tail, none, size, index, line, column⟩ = ⟨tail, none, size, index + 1, line, column + 1⟩ := by
  simp [Cursor.forward, Cursor.step, noBreak, noMark]

theorem takeWhile_none {belongs : Char → Bool} (other : belongs (cursor.charAt 0) = false) :
    cursor.rest.takeWhile belongs = [] := by
  unfold Cursor.charAt at other
  cases there : cursor.rest with
  | nil => rfl
  | cons c rest =>
    have stops : belongs c = false := by simpa [there] using other
    simp [stops]

theorem skipWhile_none (whole : cursor.lack = none) {belongs : Char → Bool} (other : belongs (cursor.charAt 0) = false) :
    Ends (skipWhile belongs) cursor ⟨⟩ cursor := by
  have taken := takeWhile_ends whole belongs
  rw [takeWhile_none other] at taken
  exact ends_map.mpr ⟨[], taken, rfl⟩

theorem skipSpaces_none (whole : cursor.lack = none) (other : cursor.charAt 0 ≠ ' ') :
    Ends skipSpaces cursor ⟨⟩ cursor := skipWhile_none whole (beq_false_of_ne other)

theorem skipSpaces_one (other : c ≠ ' ') : Ends skipSpaces ⟨' ' :: c :: tail, none, size, index, line, column⟩ ⟨⟩
    ⟨c :: tail, none, size, index + 1, line, column + 1⟩ := by
  have taken := @takeWhile_ends ⟨' ' :: c :: tail, none, size, index, line, column⟩ rfl (· == ' ')
  have run : (' ' :: c :: tail).takeWhile (· == ' ') = [' '] := by simp [other]
  rw [run] at taken
  exact ends_map.mpr ⟨[' '], taken, rfl⟩

theorem skipComment_none (whole : cursor.lack = none) (other : cursor.charAt 0 ≠ '#') :
    Ends skipComment cursor ⟨⟩ cursor := by
  refine Ends.bind (peekAt_ends whole 0) ?_
  rw [beq_false_of_ne other]
  exact ends_pure.mpr ⟨rfl, rfl⟩

theorem lineBreak_none (whole : cursor.lack = none) (inside : isBreak (cursor.charAt 0) = false) :
    Ends lineBreak cursor none cursor := by
  refine Ends.bind (peekAt_ends whole 0) ?_
  rw [inside]
  exact ends_pure.mpr ⟨rfl, rfl⟩

theorem lineBreak_feed : Ends lineBreak ⟨'\n' :: tail, none, size, index, line, column⟩ (some '\n')
    ⟨tail, none, size, index + 1, line + 1, 0⟩ := by
  refine Ends.bind (peekAt_ends rfl 0) (Ends.bind (advance_ends rfl 1) ?_)
  exact ends_pure.mpr ⟨rfl, rfl⟩

theorem marks_none (whole : cursor.lack = none) {among : List Char} (other : among.contains (cursor.charAt 0) = false) :
    Ends (marks among) cursor false cursor := by
  refine Ends.bind (demand_ends whole 3) (Ends.bind (ends_get.mpr ⟨rfl, rfl⟩) ?_)
  split
  next first second third rest there =>
    have unlisted : among.contains first = false := by simpa [Cursor.charAt, there] using other
    simp only [unlisted, Bool.false_and]
    exact ends_pure.mpr ⟨rfl, rfl⟩
  · exact ends_pure.mpr ⟨rfl, rfl⟩

variable (wordly : ∀ c ∈ word, isWordly c = true)

include wordly

theorem word_inline : ∀ c ∈ word, isBreak c = false ∧ c ≠ byteOrderMark := by
  intro c member
  have facts := wordly_of (wordly c member)
  exact ⟨facts.noBreak, facts.noMark⟩

theorem run_word (ends : Scalar.run false tail = []) : Scalar.run false (word ++ tail) = word := by
  induction word with
  | nil => exact ends
  | cons c word ih =>
    have facts := wordly_of (wordly c (by simp))
    rw [List.cons_append, Scalar.run]
    simp [facts.goesOn, facts.noColon, ih fun d member => wordly d (by simp [member])]

theorem plainRun_word (ends : Scalar.run false tail = []) :
    Ends (Scalar.plainRun false) ⟨word ++ tail, none, size, index, line, column⟩ word
      ⟨tail, none, size, index + word.length, line, column + word.length⟩ := by
  refine Ends.bind (ends_get.mpr ⟨rfl, rfl⟩) ?_
  dsimp only
  rw [run_word wordly ends]
  refine Ends.bind (peekAt_ends rfl _) ?_
  have moved : Ends (do advance word.length; return word) ⟨word ++ tail, none, size, index, line, column⟩ word
      ⟨tail, none, size, index + word.length, line, column + word.length⟩ :=
    Ends.bind (advance_ends rfl _) (ends_pure.mpr ⟨rfl, (forward_inline (word_inline wordly)).symm⟩)
  split
  · exact Ends.bind (demand_ends rfl _) moved
  · exact moved

omit wordly

theorem plainSpaces_none (whole : cursor.lack = none) (noBlank : cursor.charAt 0 ≠ ' ')
    (noBreak : isBreak (cursor.charAt 0) = false) : Ends Scalar.plainSpaces cursor (none, false) cursor := by
  have none := @takeWhile_none cursor (· == ' ') (beq_false_of_ne noBlank)
  have taken := takeWhile_ends whole (· == ' ')
  rw [none] at taken
  exact Ends.bind taken (Ends.bind (lineBreak_none whole noBreak) (ends_pure.mpr ⟨rfl, rfl⟩))

theorem plainBreaks_none (whole : cursor.lack = none) (quiet : Quiet (cursor.charAt 0)) (fuel : Nat) (breaks : List Char) :
    Ends (Scalar.plainBreaks (fuel + 1) breaks) cursor (some breaks) cursor := by
  refine Ends.bind (marks_none whole quiet.unmarked) (Ends.bind (skipSpaces_none whole quiet.noBlank) ?_)
  exact Ends.bind (lineBreak_none whole quiet.noBreak) (ends_pure.mpr ⟨rfl, rfl⟩)

/-- A line feed counts as a blank, in case the scalar goes on. -/
theorem plainSpaces_line (fresh : Fresh tail) : Ends Scalar.plainSpaces ⟨'\n' :: tail, none, size, index, line, column⟩
    (some [' '], true) ⟨tail, none, size, index + 1, line + 1, 0⟩ := by
  have quiet : Quiet (Cursor.charAt ⟨tail, none, size, index + 1, line + 1, 0⟩ 0) := fresh.quiet
  refine Ends.bind (takeWhile_ends rfl _) (Ends.bind lineBreak_feed ?_)
  refine Ends.bind (ends_map.mpr ⟨_, ends_get.mpr ⟨rfl, rfl⟩, rfl⟩) ?_
  exact Ends.bind (plainBreaks_none rfl quiet _ _) (ends_pure.mpr ⟨rfl, rfl⟩)

include wordly

theorem plain_key (filled : word ≠ []) (indent : Int) :
    Ends (Scalar.plain false indent) ⟨word ++ ':' :: ' ' :: tail, none, size, index, line, column⟩ ⟨word, false⟩
      ⟨':' :: ' ' :: tail, none, size, index + word.length, line, column + word.length⟩ := by
  obtain ⟨first, more, rfl⟩ := List.exists_cons_of_ne_nil filled
  have noHash : (first == '#') = false := beq_false_of_ne (wordly_of (wordly first (by simp))).noHash
  have colon : ':' ≠ ' ' ∧ isBreak ':' = false := by decide
  refine Ends.bind (ends_map.mpr ⟨_, ends_get.mpr ⟨rfl, rfl⟩, rfl⟩) ?_
  refine Ends.bind (peekAt_ends rfl 0) ?_
  change Ends (if (first == '#') = true then _ else _) _ _ _
  rw [noHash]
  refine Ends.bind (plainRun_word wordly rfl) ?_
  exact Ends.bind (plainSpaces_none rfl colon.1 colon.2) (ends_pure.mpr ⟨rfl, rfl⟩)

theorem plain_line (filled : word ≠ []) (fresh : Fresh tail) {indent : Int} (inside : 0 < indent) :
    Ends (Scalar.plain false indent) ⟨word ++ '\n' :: tail, none, size, index, line, column⟩ ⟨word, true⟩
      ⟨tail, none, size, index + word.length + 1, line + 1, 0⟩ := by
  obtain ⟨first, more, rfl⟩ := List.exists_cons_of_ne_nil filled
  have noHash : (first == '#') = false := beq_false_of_ne (wordly_of (wordly first (by simp))).noHash
  refine Ends.bind (ends_map.mpr ⟨_, ends_get.mpr ⟨rfl, rfl⟩, rfl⟩) ?_
  refine Ends.bind (peekAt_ends rfl 0) ?_
  change Ends (if (first == '#') = true then _ else _) _ _ _
  rw [noHash]
  refine Ends.bind (plainRun_word wordly rfl) (Ends.bind (plainSpaces_line fresh) (Ends.bind (peekAt_ends rfl 0) ?_))
  refine Ends.bind (ends_map.mpr ⟨_, ends_get.mpr ⟨rfl, rfl⟩, rfl⟩) ?_
  have outside : ((0 : Nat) : Int) < indent := inside
  simp only [outside, decide_true, Bool.not_false, Bool.and_true, Bool.or_true, if_true]
  exact ends_pure.mpr ⟨rfl, rfl⟩

omit wordly

def dotless : Char := .ofNat 0x131

/-- How a character is written between double quotes. -/
def spelled (c : Char) : List Char := if c = dotless then "\\u0131".toList else [c]

theorem escape_dotless : Ends Scalar.escape ⟨'\\' :: 'u' :: '0' :: '1' :: '3' :: '1' :: tail, none, size, index, line, column⟩ [dotless]
    ⟨tail, none, size, index + 6, line, column + 6⟩ := rfl

theorem spelled_wordly (wordly : isWordly c = true) : spelled c = [c] := by
  have other : c ≠ dotless := by
    rintro rfl
    exact absurd wordly (by decide)
  rw [spelled, if_neg other]

include wordly in
theorem spelled_word : word.flatMap spelled = word := by
  induction word with
  | nil => rfl
  | cons c word ih =>
    rw [List.flatMap_cons, ih fun d member => wordly d (by simp [member]), spelled_wordly (wordly c (by simp))]
    rfl

theorem takeWhile_quoted (wordly : ∀ c ∈ word, isWordly c = true) {stop : Char} (stops : Scalar.isQuotedText stop = false) :
    (word ++ stop :: tail).takeWhile Scalar.isQuotedText = word := by
  have all : ∀ c ∈ word, Scalar.isQuotedText c = true := fun c member => (wordly_of (wordly c member)).quoted
  rw [List.takeWhile_append_of_pos all, List.takeWhile_cons, stops]
  simp

theorem split_wordly (text : List Char) : ∃ word rest, text = word ++ rest ∧ (∀ c ∈ word, isWordly c = true) ∧
    ∀ c ∈ rest.head?, isWordly c = false := by
  refine ⟨text.takeWhile isWordly, text.dropWhile isWordly, List.takeWhile_append_dropWhile.symm, ?_, ?_⟩
  · exact fun c member => List.mem_takeWhile_imp member
  · intro c head
    have stops := List.head?_dropWhile_not isWordly text
    rw [head] at stops
    exact stops

/-- A round of the scan takes a word and the escape behind it, so the text gets shorter with the fuel. -/
theorem quotedText_ends {text : List Char} (letters : ∀ c ∈ text, isWordly c = true ∨ c = dotless) {fuel : Nat}
    (enough : text.length < fuel) :
    Ends (Scalar.quotedText true fuel) ⟨text.flatMap spelled ++ '"' :: tail, none, size, index, line, column⟩ text
      ⟨'"' :: tail, none, size, index + (text.flatMap spelled).length, line, column + (text.flatMap spelled).length⟩ := by
  induction fuel generalizing text index column with
  | zero => omega
  | succ fuel ih =>
    obtain ⟨word, rest, rfl, wordly, stops⟩ := split_wordly text
    rw [List.flatMap_append, spelled_word wordly]
    have taken (stop : Char) (tail : List Char) (ends : Scalar.isQuotedText stop = false) :
        Ends (takeWhile Scalar.isQuotedText) ⟨word ++ stop :: tail, none, size, index, line, column⟩ word
          ⟨stop :: tail, none, size, index + word.length, line, column + word.length⟩ := by
      have run := @takeWhile_ends ⟨word ++ stop :: tail, none, size, index, line, column⟩ rfl Scalar.isQuotedText
      rw [takeWhile_quoted wordly ends, forward_inline (word_inline wordly)] at run
      exact run
    cases rest with
    | nil =>
      simp only [List.flatMap_nil, List.append_nil] at *
      refine Ends.bind (taken '"' tail (by decide)) (Ends.bind (peekAt_ends rfl 0) ?_)
      exact ends_pure.mpr ⟨rfl, rfl⟩
    | cons c more =>
      obtain rfl : c = dotless := by
        have other := stops c rfl
        simpa [other] using letters c (by simp)
      have shorter : more.length < fuel := by
        simp only [List.length_append, List.length_cons] at enough
        omega
      have later := @ih (index + word.length + 6) (column + word.length + 6) more (fun d member => letters d (by simp [member]))
        shorter
      have image : (dotless :: more).flatMap spelled = '\\' :: 'u' :: '0' :: '1' :: '3' :: '1' :: more.flatMap spelled := rfl
      rw [image, List.append_assoc]
      refine Ends.bind (taken '\\' _ (by decide)) (Ends.bind (peekAt_ends rfl 0) ?_)
      refine Ends.bind (ends_pure.mpr ⟨rfl, rfl⟩) (Ends.bind escape_dotless (Ends.bind later (ends_pure.mpr ⟨by simp, ?_⟩)))
      simp only [Cursor.mk.injEq, List.length_append, List.length_cons, true_and]
      omega

theorem quoted_ends {text : List Char} (letters : ∀ c ∈ text, isWordly c = true ∨ c = dotless) (enough : text.length ≤ size) :
    Ends (Scalar.quoted true) ⟨'"' :: (text.flatMap spelled ++ '"' :: tail), none, size, index, line, column⟩ text
      ⟨tail, none, size, index + (text.flatMap spelled).length + 2, line, column + (text.flatMap spelled).length + 2⟩ := by
  have opened : Ends (advance 1) ⟨'"' :: (text.flatMap spelled ++ '"' :: tail), none, size, index, line, column⟩ ⟨⟩
      ⟨text.flatMap spelled ++ '"' :: tail, none, size, index + 1, line, column + 1⟩ := advance_ends rfl 1
  refine Ends.bind opened (Ends.bind (ends_map.mpr ⟨_, ends_get.mpr ⟨rfl, rfl⟩, rfl⟩) ?_)
  refine Ends.bind (ends_map.mpr ⟨_, ends_get.mpr ⟨rfl, rfl⟩, rfl⟩) ?_
  refine Ends.bind (quotedText_ends letters (Nat.lt_succ_of_le enough)) (Ends.bind (peekAt_ends rfl 0) ?_)
  refine Ends.bind (advance_ends rfl 1) (ends_pure.mpr ⟨rfl, ?_⟩)
  rw [forward_char (by decide) (by decide)]
  simp only [Cursor.mk.injEq, true_and]
  omega

end TermStyle.Proofs.ScanRun
