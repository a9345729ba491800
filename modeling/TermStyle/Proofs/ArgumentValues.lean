import TermStyle.Proofs.ArgumentReading
import TermStyle.Proofs.ExceptSteps

/-! What arguments stand for, said by their characters alone: numbers in basic digits, and colours in hexadecimal ones.
Reading finds exactly these values. -/

namespace TermStyle.Proofs.ArgumentValues
open Text Numeral NumeralReading ExceptSteps

/-- Basic digits, at least one, and the number that they stand for in base ten. -/
structure IsNumber (text : String) (value : Nat) : Prop where
  filled : text ≠ ""
  basic : ∀ c ∈ text.toList, '0' ≤ c ∧ c ≤ '9'
  value : Nat.ofDigitChars 10 text.toList 0 = value

section Numbers

variable {text : String} {digits : List Char}

theorem isAsciiDigit_iff {c : Char} : Digit.isAsciiDigit c = true ↔ '0' ≤ c ∧ c ≤ '9' := by
  simp [Digit.isAsciiDigit]

theorem number_decimal (n : Nat) : IsNumber (toString n) n where
  filled := by simp
  basic := by
    intro c member
    have digit := Nat.isDigit_of_mem_toDigits (by decide) (by decide) (Nat.toList_repr ▸ member)
    simpa [Char.isDigit, Char.le_def] using digit
  value := by
    have value := Nat.ofDigitChars_ten_toDigits (n := n)
    rwa [← Nat.toList_repr] at value

theorem decimal_digits (n : Nat) : ∀ c ∈ (toString n).toList, Digit.isAsciiDigit c = true :=
  fun c member => isAsciiDigit_iff.mpr ((number_decimal n).basic c member)

theorem decimal_run (n : Nat) : IsRun (toString n).toList where
  filled := by simp
  digit := fun c member => ascii_isDigit (decimal_digits n c member)

theorem ofDigits_basic (basic : ∀ c ∈ digits, Digit.isAsciiDigit c = true) :
    ofDigits 10 (digits.filterMap Digit.value?) = Nat.ofDigitChars 10 digits 0 := by
  have continued : ∀ start, (digits.filterMap Digit.value?).foldl (fun value digit => 10 * value + digit) start =
      Nat.ofDigitChars 10 digits start := by
    induction digits with
    | nil => intro start; rfl
    | cons c rest ih =>
      intro start
      rw [List.filterMap_cons_some (value?_basic (basic c (by simp))), List.foldl_cons,
        ih fun d member => basic d (by simp [member])]
      rfl
  exact continued 0

theorem channel?_unfit (unfit : ¬ (text.toList ≠ [] ∧ ∀ c ∈ text.toList, Digit.isAsciiDigit c = true)) :
    Attribute.channel? text = .ok none := by
  simp only [Attribute.channel?]
  apply if_pos
  by_cases filled : text.toList = []
  · simp [filled]
  · have odd : text.toList.all Digit.isAsciiDigit = false := by
      apply Bool.eq_false_iff.mpr
      intro basic
      exact unfit ⟨filled, List.all_eq_true.mp basic⟩
    simp [odd]

theorem channel?_digits (filled : text.toList ≠ []) (basic : ∀ c ∈ text.toList, Digit.isAsciiDigit c = true) :
    Attribute.channel? text =
      if digitLimit < text.length then .error (.tooLong text.length)
      else .ok (if inside : Nat.ofDigitChars 10 text.toList 0 < 256 then some ⟨_, inside⟩ else none) := by
  have fit : ¬ (text.toList.isEmpty || !text.toList.all Digit.isAsciiDigit) = true := by
    simp [filled, List.all_eq_true.mpr basic]
  have value := read_run ⟨filled, fun c member => ascii_isDigit (basic c member)⟩
  rw [String.ofList_toList, String.length_toList, ofDigits_basic basic] at value
  simp only [Attribute.channel?, if_neg fit, value]
  by_cases long : digitLimit < text.length
  · simp only [if_pos long]
    rfl
  · simp only [if_neg long]
    rfl

theorem channel?_some_iff {channel : Fin 256} :
    Attribute.channel? text = .ok (some channel) ↔ IsNumber text channel ∧ text.length ≤ digitLimit := by
  constructor
  · intro read
    by_cases fit : text.toList ≠ [] ∧ ∀ c ∈ text.toList, Digit.isAsciiDigit c = true
    · obtain ⟨filled, basic⟩ := fit
      rw [channel?_digits filled basic] at read
      split at read
      next => cases read
      next short =>
        split at read
        next inside =>
          obtain rfl := Option.some.inj (Except.ok.inj read)
          have filled : text ≠ "" := filled ∘ String.toList_eq_nil_iff.mpr
          exact ⟨⟨filled, fun c member => isAsciiDigit_iff.mp (basic c member), rfl⟩, Nat.not_lt.mp short⟩
        next => cases read
    · rw [channel?_unfit fit] at read
      cases read
  · rintro ⟨number, short⟩
    have filled : text.toList ≠ [] := number.filled ∘ String.toList_eq_nil_iff.mp
    have basic : ∀ c ∈ text.toList, Digit.isAsciiDigit c = true :=
      fun c member => isAsciiDigit_iff.mpr (number.basic c member)
    have inside : Nat.ofDigitChars 10 text.toList 0 < 256 := by
      rw [number.value]
      exact channel.isLt
    rw [channel?_digits filled basic, if_neg (Nat.not_lt.mpr short), dif_pos inside]
    exact congrArg (fun found => Except.ok (some found)) (Fin.ext number.value)

end Numbers

section Colors

def IsHexDigit (c : Char) : Prop := c ∈ "0123456789abcdefABCDEF".toList

instance (c : Char) : Decidable (IsHexDigit c) := inferInstanceAs (Decidable (c ∈ _))

def hexValue (c : Char) : Nat := "0123456789abcdef".toList.idxOf c.toLower

/-- Hexadecimal digits are basic characters, so a check of those settles what they stand for. -/
theorem hexValue?_eq (c : Char) :
    (Color.hexValue? c).map Fin.val = if IsHexDigit c then some (hexValue c) else none := by
  by_cases basic : c.toNat < 128
  · have checked : ∀ n < 128, (Color.hexValue? (.ofNat n)).map Fin.val =
        if IsHexDigit (.ofNat n) then some (hexValue (.ofNat n)) else none := by decide +kernel
    have here := checked c.toNat basic
    rwa [Char.ofNat_toNat] at here
  · have unlisted : ¬ IsHexDigit c := by
      intro listed
      have small : "0123456789abcdefABCDEF".toList.all (·.toNat < 128) = true := by rfl
      exact basic (by simpa using List.all_eq_true.mp small c listed)
    have beyond : ∀ last : Char, last.toNat < 128 → ¬ c ≤ last := by
      intro last small below
      rw [Char.le_def, UInt32.le_iff_toNat_le] at below
      exact basic (Nat.lt_of_le_of_lt below small)
    simp [unlisted, Color.hexValue?, beyond]

theorem hexValue?_some {c : Char} {n : Fin 16} (found : Color.hexValue? c = some n) : IsHexDigit c ∧ hexValue c = n := by
  have value := hexValue?_eq c
  rw [found] at value
  split at value
  next digit => exact ⟨digit, (Option.some.inj value).symm⟩
  next => cases value

theorem exists_hexValue {c : Char} (digit : IsHexDigit c) : ∃ n : Fin 16, Color.hexValue? c = some n ∧ n.val = hexValue c := by
  have value := hexValue?_eq c
  rw [if_pos digit] at value
  exact Option.map_eq_some_iff.mp value

/-- Six hexadecimal digits, with a number sign in front or without one, and the numbers they stand for two by two. -/
inductive IsHex : String → Nat → Nat → Nat → Prop
  | six {text : String} {a b c d e f : Char} (shape : text.toList = [a, b, c, d, e, f] ∨ text.toList = ['#', a, b, c, d, e, f])
      (digits : ∀ digit ∈ [a, b, c, d, e, f], IsHexDigit digit) :
      IsHex text (16 * hexValue a + hexValue b) (16 * hexValue c + hexValue d) (16 * hexValue e + hexValue f)

theorem unmarked_shape {letters digits : List Char} (same : Color.unmarked letters = digits) :
    letters = digits ∨ letters = '#' :: digits := by
  unfold Color.unmarked at same
  split at same
  · exact Or.inr (congrArg _ same)
  · exact Or.inl same

theorem unmarked_digit {c : Char} (digit : IsHexDigit c) (rest : List Char) : Color.unmarked (c :: rest) = c :: rest := by
  have plain : c ≠ '#' := by
    rintro rfl
    exact absurd digit (by decide)
  unfold Color.unmarked
  split
  next same => exact absurd (List.cons.inj same).1 plain
  next => rfl

theorem ofHex_isHex {text : String} {color : Color} (read : Color.ofHex text = .ok color) :
    IsHex text color.red color.green color.blue := by
  unfold Color.ofHex at read
  split at read
  next a b c d e f shape =>
    split at read
    next first second third fourth fifth sixth one two three four five six =>
      obtain rfl := Except.ok.inj read
      obtain ⟨oneDigit, oneValue⟩ := hexValue?_some one
      obtain ⟨twoDigit, twoValue⟩ := hexValue?_some two
      obtain ⟨threeDigit, threeValue⟩ := hexValue?_some three
      obtain ⟨fourDigit, fourValue⟩ := hexValue?_some four
      obtain ⟨fiveDigit, fiveValue⟩ := hexValue?_some five
      obtain ⟨sixDigit, sixValue⟩ := hexValue?_some six
      have values := IsHex.six (unmarked_shape shape)
        (by simp [oneDigit, twoDigit, threeDigit, fourDigit, fiveDigit, sixDigit])
      rwa [oneValue, twoValue, threeValue, fourValue, fiveValue, sixValue] at values
    next => cases read
  next => cases read

theorem ofHex_reads {text : String} {red green blue : Nat} (hex : IsHex text red green blue) :
    ∃ color, Color.ofHex text = .ok color ∧ color.red.val = red ∧ color.green.val = green ∧ color.blue.val = blue := by
  obtain @⟨a, b, c, d, e, f, shape, digits⟩ := hex
  have unmarked : Color.unmarked text.toList = [a, b, c, d, e, f] := by
    rcases shape with plain | marked
    · rw [plain, unmarked_digit (digits a (by simp))]
    · rw [marked, Color.unmarked]
  obtain ⟨first, one, oneValue⟩ := exists_hexValue (digits a (by simp))
  obtain ⟨second, two, twoValue⟩ := exists_hexValue (digits b (by simp))
  obtain ⟨third, three, threeValue⟩ := exists_hexValue (digits c (by simp))
  obtain ⟨fourth, four, fourValue⟩ := exists_hexValue (digits d (by simp))
  obtain ⟨fifth, five, fiveValue⟩ := exists_hexValue (digits e (by simp))
  obtain ⟨sixth, six, sixValue⟩ := exists_hexValue (digits f (by simp))
  refine ⟨⟨Color.channel first second, Color.channel third fourth, Color.channel fifth sixth⟩, ?_, ?_, ?_, ?_⟩
  · simp only [Color.ofHex, unmarked, one, two, three, four, five, six]
  · rw [← oneValue, ← twoValue]
    rfl
  · rw [← threeValue, ← fourValue]
    rfl
  · rw [← fiveValue, ← sixValue]
    rfl

end Colors

end TermStyle.Proofs.ArgumentValues
