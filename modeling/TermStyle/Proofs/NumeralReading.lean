import TermStyle.Numeral
import Mathlib.Data.List.Basic
import Mathlib.Data.List.TakeWhile

/-! Whole numbers as they may be written, and reading them. A numeral is one digit or more, of any scripts, with single
underscores between them where one likes, perhaps a sign in front, and blanks around. Reading accepts exactly these, and
of a text of digits and nothing else only the length can stop it. -/

namespace TermStyle.Proofs.NumeralReading
open Text Numeral

/-- The digits of a script stand in ten places in a row. A check of those places settles what holds of
every digit. -/
theorem of_isDigit (property : Char → Bool)
    (places : ∀ first ∈ Digit.zeros, ∀ offset < 10, property (.ofNat (first + offset)) = true)
    {c : Char} (digit : Digit.isDigit c = true) : property c = true := by
  obtain ⟨value, known⟩ := Option.isSome_iff_exists.mp digit
  obtain ⟨first, found, rfl⟩ := Option.map_eq_some_iff.mp known
  have member := List.mem_of_find?_eq_some found
  have inside := List.find?_some found
  simp only [Bool.and_eq_true, decide_eq_true_eq] at inside
  have place := places first member (c.toNat - first) (by omega)
  have same : first + (c.toNat - first) = c.toNat := by omega
  rwa [same, Char.ofNat_toNat] at place

/-- No digit is a blank, a sign or an underscore, so none of them is taken for what may stand around or
between digits. -/
theorem digit_plain {c : Char} (digit : Digit.isDigit c = true) :
    Blank.isBlank c = false ∧ c ≠ '-' ∧ c ≠ '+' ∧ c ≠ '_' := by
  have plain := of_isDigit (fun c => !Blank.isBlank c && c != '-' && c != '+' && c != '_') (by decide +kernel) digit
  simpa [and_assoc] using plain

theorem padding_blank {c : Char} (padding : isPadding c = true) : Blank.isBlank c = true := by
  unfold isPadding at padding
  split at padding
  · simp only [Blank.isAsciiBlank, Bool.or_eq_true, beq_iff_eq, Bool.and_eq_true, decide_eq_true_eq] at padding
    rcases padding with rfl | ⟨least, greatest⟩
    · rfl
    · simp [Blank.isBlank, least, greatest]
  · exact padding

theorem digit_unpadded {c : Char} (digit : Digit.isDigit c = true) : isPadding c = false := by
  cases padding : isPadding c with
  | false => rfl
  | true => exact absurd (padding_blank padding) (by simp [(digit_plain digit).1])

theorem digit?_ten (c : Char) : digit? 10 c = Digit.value? c := by
  unfold digit?
  cases known : Digit.value? c with
  | some value => simp [Digit.value?_lt known]
  | none =>
    apply Option.filter_eq_none_iff.mpr
    intro value letter
    rw [decide_eq_true_eq, Nat.not_lt]
    dsimp only at letter
    split at letter
    next small =>
      have least : 97 ≤ c.toNat := UInt32.le_iff_toNat_le.mp (of_decide_eq_true (Bool.and_eq_true_iff.mp small).1)
      cases letter
      omega
    next =>
      split at letter
      next capital =>
        have least : 65 ≤ c.toNat := UInt32.le_iff_toNat_le.mp (of_decide_eq_true (Bool.and_eq_true_iff.mp capital).1)
        cases letter
        omega
      next => cases letter

theorem unmarked_ten (text : List Char) : unmarked 10 text = text := by
  unfold unmarked
  split <;> simp [isMark]

theorem value?_basic {c : Char} (digit : Digit.isAsciiDigit c = true) : Digit.value? c = some (c.toNat - '0'.toNat) := by
  have bounds : 48 ≤ c.toNat ∧ c.toNat ≤ 57 := by
    simpa [Digit.isAsciiDigit, Char.le_def, UInt32.le_iff_toNat_le] using digit
  have first : (decide (48 ≤ c.toNat) && decide (c.toNat < 48 + 10)) = true := by simp; omega
  simp [Digit.value?, Digit.zeros, first]

theorem ascii_isDigit {c : Char} (digit : Digit.isAsciiDigit c = true) : Digit.isDigit c = true := by
  rw [Digit.isDigit, value?_basic digit]
  rfl

section Grammar

/-- Digits and what they stand for. Between two of them there may be an underscore. -/
inductive Digits : List Char → List Nat → Prop
  | last {c : Char} {value : Nat} (digit : Digit.value? c = some value) : Digits [c] [value]
  | next {c : Char} {value : Nat} {rest : List Char} {values : List Nat} (digit : Digit.value? c = some value)
      (more : Digits rest values) : Digits (c :: rest) (value :: values)
  | gap {c : Char} {value : Nat} {rest : List Char} {values : List Nat} (digit : Digit.value? c = some value)
      (more : Digits rest values) : Digits (c :: '_' :: rest) (value :: values)

inductive Sign
  | unsigned
  | plus
  | minus

namespace Sign

def letters : Sign → List Char
  | unsigned => []
  | plus => ['+']
  | minus => ['-']

def isMinus : Sign → Bool
  | unsigned | plus => false
  | minus => true

def of (magnitude : Nat) : Sign → Int
  | unsigned | plus => magnitude
  | minus => -magnitude

end Sign

def IsPadding (text : List Char) : Prop := ∀ c ∈ text, isPadding c = true

instance (text : List Char) : Decidable (IsPadding text) := decidable_of_iff (text.all isPadding = true) List.all_eq_true

/-- The form of a numeral, however long it is: blanks, a sign or none, digits, blanks. -/
inductive Spelled : List Char → Sign → List Nat → Prop
  | around {front body back : List Char} {values : List Nat} (opening : IsPadding front) (sign : Sign)
      (digits : Digits body values) (closing : IsPadding back) :
      Spelled (front ++ (sign.letters ++ (body ++ back))) sign values

/-- The text is a numeral for the number, and not too long for one. -/
inductive Literal (text : String) : Int → Prop
  | short {sign : Sign} {values : List Nat} (spelled : Spelled text.toList sign values)
      (short : values.length ≤ digitLimit) : Literal text (sign.of (ofDigits 10 values))

variable {body : List Char} {values : List Nat}

theorem isDigit_of_value {c : Char} {value : Nat} (digit : Digit.value? c = some value) : Digit.isDigit c = true :=
  Option.isSome_iff_exists.mpr ⟨value, digit⟩

theorem Digits.head (digits : Digits body values) : ∃ c rest, body = c :: rest ∧ Digit.isDigit c = true := by
  cases digits with
  | last digit | next digit | gap digit => exact ⟨_, _, rfl, isDigit_of_value digit⟩

theorem Digits.final (digits : Digits body values) : ∃ front c, body = front ++ [c] ∧ Digit.isDigit c = true := by
  induction digits with
  | last digit => exact ⟨[], _, rfl, isDigit_of_value digit⟩
  | @next c _ _ _ digit more ih =>
    obtain ⟨front, d, rfl, final⟩ := ih
    exact ⟨c :: front, d, rfl, final⟩
  | @gap c _ _ _ digit more ih =>
    obtain ⟨front, d, rfl, final⟩ := ih
    exact ⟨c :: '_' :: front, d, rfl, final⟩

/-- What reading takes for the body of a numeral. -/
def isPart (c : Char) : Bool := isDigitOf 10 c || c == '_'

theorem digit_isPart {c : Char} {value : Nat} (digit : Digit.value? c = some value) : isPart c = true := by
  simp [isPart, isDigitOf, digit?_ten, digit]

theorem padding_apart {c : Char} (padding : isPadding c = true) : isPart c = false := by
  cases digit : Digit.isDigit c with
  | true => exact absurd padding (by simp [digit_unpadded digit])
  | false =>
    have other : c ≠ '_' := by
      rintro rfl
      exact absurd padding (by decide)
    rw [Digit.isDigit] at digit
    simp [isPart, isDigitOf, digit?_ten, digit, other]

theorem separated_digit {c : Char} (digit : Digit.isDigit c = true) (rest : List Char) :
    separated (c :: rest) = separated rest := by
  have other := (digit_plain digit).2.2.2
  rw [separated]
  · intro last
    exact absurd last other
  · intro _ doubled
    exact absurd doubled other

theorem separated_gap {c : Char} (digit : Digit.isDigit c = true) (rest : List Char) :
    separated ('_' :: c :: rest) = separated (c :: rest) := by
  have other := (digit_plain digit).2.2.2
  rw [separated]
  · intro _ last
    cases last
  · intro _ _ doubled
    exact absurd (List.cons.inj doubled).1 other

theorem Digits.read (digits : Digits body values) : (∀ c ∈ body, isPart c = true) ∧ separated body = true ∧
    body.filterMap (digit? 10) = values := by
  induction digits with
  | last digit =>
    refine ⟨?_, ?_, ?_⟩
    · simpa using digit_isPart digit
    · rw [separated_digit (isDigit_of_value digit), separated]
    · simp [digit?_ten, digit]
  | next digit more ih =>
    obtain ⟨parts, separate, found⟩ := ih
    refine ⟨?_, ?_, ?_⟩
    · exact List.forall_mem_cons.mpr ⟨digit_isPart digit, parts⟩
    · rw [separated_digit (isDigit_of_value digit), separate]
    · rw [List.filterMap_cons_some (by rw [digit?_ten, digit]), found]
  | gap digit more ih =>
    obtain ⟨parts, separate, found⟩ := ih
    obtain ⟨d, rest, rfl, first⟩ := more.head
    have underscore : digit? 10 '_' = none := by decide
    refine ⟨?_, ?_, ?_⟩
    · exact List.forall_mem_cons.mpr ⟨digit_isPart digit, List.forall_mem_cons.mpr ⟨by decide, parts⟩⟩
    · rw [separated_digit (isDigit_of_value digit), separated_gap first, separate]
    · rw [List.filterMap_cons_some (by rw [digit?_ten, digit]), List.filterMap_cons_none underscore, found]

theorem part_cases {c : Char} (part : isPart c = true) : (∃ value, Digit.value? c = some value) ∨ c = '_' := by
  rcases Bool.or_eq_true_iff.mp part with digit | underscore
  · left
    rw [isDigitOf, digit?_ten] at digit
    exact Option.isSome_iff_exists.mp digit
  · exact Or.inr (eq_of_beq underscore)

/-- Without two underscores side by side, or one at its end, a row of parts is the body of a numeral, or one underscore and
the body of a numeral. -/
theorem exists_digits (parts : ∀ c ∈ body, isPart c = true) (separate : separated body = true) (filled : body ≠ []) :
    (∃ values, Digits body values) ∨ ∃ rest values, body = '_' :: rest ∧ Digits rest values := by
  induction body with
  | nil => exact absurd rfl filled
  | cons c rest ih =>
    have behind : ∀ d ∈ rest, isPart d = true := fun d member => parts d (List.mem_cons_of_mem _ member)
    cases rest with
    | nil =>
      rcases part_cases (parts c List.mem_cons_self) with ⟨value, digit⟩ | rfl
      · exact Or.inl ⟨_, .last digit⟩
      · exact absurd separate (by decide)
    | cons d more =>
      rcases part_cases (parts c List.mem_cons_self) with ⟨value, digit⟩ | rfl
      · left
        rw [separated_digit (isDigit_of_value digit)] at separate
        rcases ih behind separate (List.cons_ne_nil _ _) with ⟨values, digits⟩ | ⟨rest, values, same, digits⟩
        · exact ⟨_, .next digit digits⟩
        · rw [same]
          exact ⟨_, .gap digit digits⟩
      · right
        rcases part_cases (behind d List.mem_cons_self) with ⟨value, digit⟩ | rfl
        · rw [separated_gap (isDigit_of_value digit)] at separate
          rcases ih behind separate (List.cons_ne_nil _ _) with ⟨values, digits⟩ | ⟨rest, values, same, digits⟩
          · exact ⟨_, values, rfl, digits⟩
          · obtain rfl := (List.cons.inj same).1
            exact absurd rfl (digit_plain (isDigit_of_value digit)).2.2.2
        · rw [separated] at separate
          cases separate

theorem signed_letters (sign : Sign) {c : Char} (digit : Digit.isDigit c = true) (rest : List Char) :
    signed (sign.letters ++ c :: rest) = (sign.isMinus, c :: rest) := by
  obtain ⟨_, minus, plus, _⟩ := digit_plain digit
  cases sign with
  | plus | minus => rfl
  | unsigned =>
    unfold signed
    split
    next same => exact absurd (List.cons.inj same).1 minus
    next same => exact absurd (List.cons.inj same).1 plus
    next => rfl

theorem signed_cases (text : List Char) : ∃ sign : Sign, ∃ rest, text = sign.letters ++ rest ∧ signed text = (sign.isMinus, rest) := by
  unfold signed
  split
  next rest => exact ⟨.minus, rest, rfl, rfl⟩
  next rest => exact ⟨.plus, rest, rfl, rfl⟩
  next => exact ⟨.unsigned, text, rfl, rfl⟩

theorem Sign.of_eq (sign : Sign) (magnitude : Nat) :
    (if sign.isMinus then -(magnitude : Int) else magnitude) = sign.of magnitude := by
  cases sign <;> rfl

theorem signed_unpadded (sign : Sign) {c : Char} (digit : Digit.isDigit c = true) (rest : List Char) :
    (sign.letters ++ c :: rest).dropWhile isPadding = sign.letters ++ c :: rest := by
  cases sign with
  | plus | minus => rfl
  | unsigned => simp [Sign.letters, digit_unpadded digit]

theorem takeWhile_part (parts : ∀ c ∈ body, isPart c = true) {back : List Char} (closing : IsPadding back) :
    (body ++ back).takeWhile isPart = body ∧ (body ++ back).dropWhile isPart = back := by
  have apart : ∀ c ∈ back, isPart c = false := fun c member => padding_apart (closing c member)
  rw [List.takeWhile_append_of_pos parts, List.dropWhile_append_of_pos parts]
  cases back with
  | nil => simp
  | cons c rest => simp [apart c List.mem_cons_self]

/-- What reading comes to, part by part: sign, body, and what stands behind that. -/
theorem read_parts {text : String} {negative : Bool} {inner run behind : List Char}
    (shape : signed (text.toList.dropWhile isPadding) = (negative, inner)) (taken : inner.takeWhile isPart = run)
    (left : inner.dropWhile isPart = behind) (found : run.filterMap (digit? 10) = values) :
    Numeral.read text =
      if run.isEmpty || run.head? == some '_' || !separated run then .error (.malformed 10 text)
      else if digitLimit < values.length then .error (.tooLong values.length)
      else if !behind.all isPadding then .error (.malformed 10 text)
      else .ok (if negative then -(ofDigits 10 values : Int) else ofDigits 10 values) := by
  have part : (fun c => isDigitOf 10 c || c == '_') = isPart := rfl
  have limited : isLimited 10 = true := rfl
  rw [Numeral.read, readIn, shape]
  simp only [unmarked_ten, part, taken, left, found, limited, Bool.true_and, decide_eq_true_eq]

/-- A numeral is read as what it stands for, if it is not too long. -/
theorem read_spelled {text : String} {sign : Sign} (spelled : Spelled text.toList sign values) :
    Numeral.read text =
      if digitLimit < values.length then .error (.tooLong values.length) else .ok (sign.of (ofDigits 10 values)) := by
  generalize letters : text.toList = whole at spelled
  obtain @⟨front, body, back, _, opening, sign, digits, closing⟩ := spelled
  obtain ⟨c, rest, rfl, first⟩ := digits.head
  obtain ⟨parts, separate, found⟩ := digits.read
  obtain ⟨run, behind⟩ := takeWhile_part parts closing
  have shape : signed (text.toList.dropWhile isPadding) = (sign.isMinus, c :: rest ++ back) := by
    rw [letters, List.dropWhile_append_of_pos opening, List.cons_append, signed_unpadded sign first, signed_letters sign first]
  have closed : back.all isPadding = true := List.all_eq_true.mpr closing
  have plain : c ≠ '_' := (digit_plain first).2.2.2
  rw [read_parts shape run behind found, separate, closed, Sign.of_eq]
  simp [plain]

/-- Only numerals are read. -/
theorem spelled_of_read {text : String} {number : Int} (read : Numeral.read text = .ok number) : Literal text number := by
  obtain ⟨sign, inner, whole, shape⟩ := signed_cases (text.toList.dropWhile isPadding)
  rw [read_parts shape rfl rfl rfl, Sign.of_eq] at read
  split at read
  · cases read
  next formed =>
    split at read
    · cases read
    next short =>
      split at read
      · cases read
      next closed =>
        cases read
        simp only [Bool.or_eq_true, List.isEmpty_iff, beq_iff_eq, Bool.not_eq_true', not_or, Bool.not_eq_false] at formed
        obtain ⟨⟨filled, headed⟩, separate⟩ := formed
        have parts : ∀ c ∈ inner.takeWhile isPart, isPart c = true := fun c member => List.mem_takeWhile_imp member
        rcases exists_digits parts separate filled with ⟨values, digits⟩ | ⟨rest, values, same, digits⟩
        · have opening : IsPadding (text.toList.takeWhile isPadding) := fun c member => List.mem_takeWhile_imp member
          have closing : IsPadding (inner.dropWhile isPart) := by
            simpa only [IsPadding, Bool.not_eq_true', Bool.not_eq_false, List.all_eq_true] using closed
          have spelled := Spelled.around opening sign digits closing
          rw [List.takeWhile_append_dropWhile, ← whole, List.takeWhile_append_dropWhile] at spelled
          rw [digits.read.2.2] at short ⊢
          exact .short spelled (Nat.not_lt.mp short)
        · rw [same] at headed
          exact absurd rfl headed

theorem read_literal_iff {text : String} {number : Int} : Numeral.read text = .ok number ↔ Literal text number := by
  constructor
  · exact spelled_of_read
  · rintro ⟨spelled, short⟩
    rw [read_spelled spelled, if_neg (Nat.not_lt.mpr short)]

end Grammar

structure IsRun (digits : List Char) : Prop where
  filled : digits ≠ []
  digit : ∀ c ∈ digits, Digit.isDigit c = true

theorem IsRun.digits {digits : List Char} (run : IsRun digits) : Digits digits (digits.filterMap Digit.value?) := by
  obtain ⟨filled, all⟩ := run
  induction digits with
  | nil => exact absurd rfl filled
  | cons c rest ih =>
    obtain ⟨value, known⟩ := Option.isSome_iff_exists.mp (all c List.mem_cons_self)
    rw [List.filterMap_cons_some known]
    cases rest with
    | nil => exact .last known
    | cons d more => exact .next known (ih (List.cons_ne_nil _ _) fun e member => all e (List.mem_cons_of_mem _ member))

theorem read_run {digits : List Char} (run : IsRun digits) :
    Numeral.read (.ofList digits) =
      if digitLimit < digits.length then .error (.tooLong digits.length)
      else .ok (ofDigits 10 (digits.filterMap Digit.value?)) := by
  have spelled : Spelled (String.ofList digits).toList .unsigned (digits.filterMap Digit.value?) := by
    have bare := Spelled.around (List.forall_mem_nil _) .unsigned run.digits (List.forall_mem_nil _)
    simpa [Sign.letters] using bare
  have counted : (digits.filterMap Digit.value?).length = digits.length := List.filterMap_length_eq_length.mpr run.digit
  rw [read_spelled spelled, counted]
  rfl

/-- A run is refused for nothing but its length. -/
theorem read_run_error_iff {digits : List Char} (run : IsRun digits) (error : Numeral.Error) :
    Numeral.read (.ofList digits) = .error error ↔ digitLimit < digits.length ∧ error = .tooLong digits.length := by
  rw [read_run run]
  split
  next long => simp [long, eq_comm]
  next short => simp [short]

def ones : String := .ofList (List.replicate (digitLimit + 1) '1')

theorem ones_all {p : Char → Prop} (one : p '1') : ∀ c ∈ ones.toList, p c := by
  intro c member
  rw [ones, String.toList_ofList] at member
  rw [List.eq_of_mem_replicate member]
  exact one

theorem ones_long : digitLimit < ones.toList.length := by simp [ones]

end TermStyle.Proofs.NumeralReading
