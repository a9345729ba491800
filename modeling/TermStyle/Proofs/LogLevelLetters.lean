import TermStyle.Proofs.LogLevelText
import TermStyle.Proofs.ScanRun
import TermStyle.Yaml.Tag

/-! The letters that a log level may be written in. Apart from the basic ones there is a single letter whose capital is one
of those in a level: the small one without a dot. Ligatures have capitals, but none that follow each other in a level. -/

namespace TermStyle.Proofs.LogLevelLetters
open Text CaseMap LogLevelText ScanRun Yaml

def isLetter (c : Char) : Bool := c.isAlpha || c == dotless

/-- The capitals of a character follow each other in the name of a level. -/
def Within (image : List Char) : Prop := ∃ name ∈ Settings.logLevels, image <:+: name.toList

theorem capital_within {text : String} (named : upper text ∈ Settings.logLevels) {c : Char} (member : c ∈ text.toList) :
    Within (capital c) := by
  refine ⟨upper text, named, ?_⟩
  obtain ⟨front, back, same⟩ := List.append_of_mem member
  rw [upper_toList, same, List.flatMap_append, List.flatMap_cons]
  exact ⟨_, _, by rw [List.append_assoc]⟩

def levelLetters : List Char := "DEBUGINFOWRCTAL".toList

theorem within_listed {image : List Char} (within : Within image) : image ⊆ levelLetters := by
  obtain ⟨name, listed, inside⟩ := within
  have letters : ∀ name ∈ Settings.logLevels, name.toList ⊆ levelLetters := by decide
  exact fun c member => letters name listed (inside.subset member)

theorem levelLetters_latin : ∀ c ∈ levelLetters, 0 < c.toNat ∧ c.toNat < 128 := List.all_iff_forall_prop.mp (by decide)

private theorem latin_letter : ∀ code < 128, capital (Char.ofNat code) ⊆ levelLetters → isLetter (Char.ofNat code) = true := by
  decide +kernel

private theorem long_apart : ∀ entry ∈ CaseTable.longCapitals, ∀ name ∈ Settings.logLevels,
    ¬ entry.2.map Char.ofNat <:+: name.toList := by decide +kernel

/-- Runs that lead to basic letters are those of the basic ones and of single letters, of which the second is no part of a
level. -/
private theorem shifted_far : ∀ run ∈ CaseTable.capitals, run.2.1 < 128 ∨ (128 : Int) ≤ run.1 + run.2.2.2 ∨
    run = (0x131, 0x131, 1, -232) ∨ run = (0x17f, 0x17f, 1, -300) := by decide +kernel

theorem ofNat_listed {code : Nat} (listed : Char.ofNat code ∈ levelLetters) : code < 128 := by
  have own := levelLetters_latin _ listed
  unfold Char.ofNat at own
  by_cases valid : code.isValidChar
  · rw [dif_pos valid] at own
    exact own.2
  · rw [dif_neg valid] at own
    exact absurd own.1 (Nat.lt_irrefl 0)

theorem shift_listed {c : Char} (far : 128 ≤ c.toNat) (listed : shift CaseTable.capitals c ∈ levelLetters) : c = dotless := by
  unfold shift at listed
  split at listed
  next first last step distance found =>
    have known := List.mem_of_find?_eq_some found
    have place := List.find?_some found
    simp only [Bool.and_eq_true, decide_eq_true_eq] at place
    obtain ⟨⟨low, high⟩, _⟩ := place
    have near := ofNat_listed listed
    rcases shifted_far _ known with basic | image | only | only
    · exact absurd high (by dsimp only at basic; omega)
    · exact absurd image (by dsimp only; omega)
    · cases only
      have code : c.toNat = 0x131 := Nat.le_antisymm high low
      rw [dotless, ← code, Char.ofNat_toNat]
    · -- The long small s has the capital of the other one, which is in no level.
      cases only
      have code : c.toNat = 0x17f := Nat.le_antisymm high low
      rw [code] at listed
      exact absurd listed (by decide)
  · exact absurd (levelLetters_latin c listed).2 (by omega)

theorem capital_letter {c : Char} (within : Within (capital c)) : isLetter c = true := by
  by_cases latin : c.toNat < 0x80
  · have own := latin_letter c.toNat latin
    rw [Char.ofNat_toNat] at own
    exact own (within_listed within)
  · rw [capital, if_neg latin] at within
    unfold mapped at within
    split at within
    next codes found =>
      obtain ⟨name, listed, inside⟩ := within
      obtain ⟨front, back, same, _⟩ := List.lookup_eq_some_iff.mp found
      have known : (c.toNat, codes) ∈ CaseTable.longCapitals := by
        rw [same]
        exact List.mem_append_right _ (List.mem_cons_self ..)
      exact absurd inside (long_apart _ known name listed)
    · have same := shift_listed (Nat.le_of_not_lt latin) (within_listed within (List.mem_singleton_self _))
      rw [same]
      decide

theorem named_letters {text : String} (named : upper text ∈ Settings.logLevels) : ∀ c ∈ text.toList, isLetter c = true :=
  fun _ member => capital_letter (capital_within named member)

theorem letter_cases {c : Char} (letter : isLetter c = true) : isWordly c = true ∨ c = dotless := by
  simp only [isLetter, Bool.or_eq_true, beq_iff_eq] at letter
  rcases letter with basic | rfl
  · left
    simp [isWordly, Char.isAlphanum, basic]
  · exact Or.inr rfl

/-- What is true of the letter without a dot and of all basic ones is checked by their codes. -/
@[elab_as_elim]
theorem letter_forall {motive : Char → Prop} (c : Char) (letter : isLetter c = true) (other : motive dotless)
    (all : ∀ code < 128, isLetter (Char.ofNat code) = true → motive (Char.ofNat code)) : motive c := by
  rcases letter_cases letter with wordly | rfl
  · have own := all c.toNat (isWordly_latin wordly)
    rw [Char.ofNat_toNat] at own
    exact own letter
  · exact other

theorem named_filled {text : String} (named : upper text ∈ Settings.logLevels) : text.toList ≠ [] := by
  intro none
  have empty : upper text = "" := by rw [upper, none, List.flatMap_nil]
  rw [empty] at named
  exact absurd named (by decide)

theorem named_length {text : String} (named : upper text ∈ Settings.logLevels) : text.toList.length ≤ 8 := by
  have single : ∀ c ∈ text.toList, (capital c).length = 1 := by
    intro c member
    refine letter_forall c (named_letters named c member) ?_ ?_ <;> decide +kernel
  have same : (upper text).toList.length = text.toList.length := by
    rw [upper_toList]
    generalize text.toList = chars at single
    induction chars with
    | nil => rfl
    | cons c rest ih =>
      rw [List.flatMap_cons, List.length_append, single c (by simp), ih fun d member => single d (by simp [member]),
        List.length_cons, Nat.add_comm]
  have short : ∀ name ∈ Settings.logLevels, name.toList.length ≤ 8 := by decide
  rw [← same]
  exact short _ named

/-! ## Its form -/

/-- A letter starts no number, no date and nothing that is infinite. -/
structure Plain (c : Char) : Prop where
  noDigit : Tag.isDigit c = false
  noSign : c ≠ '-' ∧ c ≠ '+'
  noPoint : c ≠ '.'
  noZero : c ≠ '0'

theorem plain_of {c : Char} (letter : isLetter c = true) : Plain c := by
  have facts : Tag.isDigit c = false ∧ c ≠ '-' ∧ c ≠ '+' ∧ c ≠ '.' ∧ c ≠ '0' := by
    refine letter_forall c letter ?_ ?_ <;> decide +kernel
  exact ⟨facts.1, ⟨facts.2.1, facts.2.2.1⟩, facts.2.2.2.1, facts.2.2.2.2⟩

variable {c : Char} {rest : List Char}

theorem unsigned_plain (plain : Plain c) : Tag.unsigned (c :: rest) = c :: rest := by
  unfold Tag.unsigned
  split
  next same => exact absurd (List.cons.inj same).1 plain.noSign.1
  next same => exact absurd (List.cons.inj same).1 plain.noSign.2
  · rfl

theorem number_plain (plain : Plain c) : Tag.number? (c :: rest) = none := by
  rw [Tag.number?, plain.noDigit]
  rfl

theorem listed_point {words : List String} (points : ∀ word ∈ words, word.toList.head? = some '.') (plain : Plain c) :
    words.contains (.ofList (c :: rest)) = false := by
  by_contra listed
  have member := List.contains_iff_mem.mp (Bool.not_eq_false _ |>.mp listed)
  have head := points _ member
  rw [String.toList_ofList] at head
  exact plain.noPoint (Option.some.inj head)

theorem float_plain (plain : Plain c) : Tag.isFloat (c :: rest) = false := by
  unfold Tag.isFloat
  rw [unsigned_plain plain, listed_point (by decide) plain, listed_point (by decide) plain]
  split
  next same => exact absurd (List.cons.inj same).1 plain.noPoint
  · rw [number_plain plain]
    rfl

theorem int_plain (plain : Plain c) : Tag.isInt (c :: rest) = false := by
  unfold Tag.isInt
  rw [unsigned_plain plain]
  have noZero := plain.noZero
  split
  next same => exact absurd (List.cons.inj same).1 noZero
  next same => exact absurd (List.cons.inj same).1 noZero
  next same => exact absurd (List.cons.inj same).1 noZero
  next same => exact absurd (List.cons.inj same).1 noZero
  · rw [number_plain plain]

theorem stamp_plain (plain : Plain c) : Tag.isStamp (c :: rest) = false := by
  have none : Tag.digits? 4 4 (c :: rest) = none := by simp [Tag.digits?, plain.noDigit]
  have unstamped : Tag.stamp? (c :: rest) = .none := by
    rw [Tag.stamp?, none]
    rfl
  rw [Tag.isStamp, unstamped]

/-- Words that stand for something else. -/
def words : List String := Tag.truths ++ Tag.falsehoods ++ Tag.nulls ++ ["<<", "=", "!", "&", "*"]

theorem named_text {text : String} (named : upper text ∈ Settings.logLevels) : Tag.ofPlain text = Tag.text := by
  have letters := named_letters named
  obtain ⟨c, rest, same⟩ := List.exists_cons_of_ne_nil (named_filled named)
  have plain : Plain c := plain_of (letters c (by simp [same]))
  have trimmed : Tag.trimmed text.toList = text.toList := by
    have inline : text.toList.getLast? ≠ some '\n' := by
      intro last
      exact absurd (letters _ (List.mem_of_getLast? last)) (by decide)
    simp [Tag.trimmed, inline]
  have unnamed : ∀ word ∈ words, upper word ∉ Settings.logLevels := by decide +kernel
  have other : ∀ word ∈ words, text ≠ word := by
    rintro word listed rfl
    exact unnamed text listed named
  have unlisted : ∀ list ⊆ words, list.contains text = false := by
    intro list inside
    by_contra listed
    have member : text ∈ list := by simpa using listed
    exact other text (inside member) rfl
  have float : Tag.isFloat text.toList = false := same ▸ float_plain plain
  have int : Tag.isInt text.toList = false := same ▸ int_plain plain
  have stamp : Tag.isStamp text.toList = false := same ▸ stamp_plain plain
  rw [Tag.ofPlain, trimmed, String.ofList_toList, unlisted _ (by decide), unlisted _ (by decide), float, int, unlisted _ (by decide), stamp]
  simp [other _ (show "<<" ∈ words by decide), other _ (show "=" ∈ words by decide), other _ (show "!" ∈ words by decide),
    other _ (show "&" ∈ words by decide), other _ (show "*" ∈ words by decide)]

end TermStyle.Proofs.LogLevelLetters
