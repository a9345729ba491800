import TermStyle.Proofs.ArgumentValues
import TermStyle.Proofs.SeparatedText
import TermStyle.Version

/-! The bracket of a version banner, said by its parts, and finding it. A text may have many opening brackets, also in the
label and behind the numbers. The one that counts is the first behind which the rest of the text has the right form, and
then the form is that of one row of parts only. -/

namespace TermStyle.Proofs.VersionBanner
open Text Version NumeralReading ArgumentValues SeparatedText

/-- What stands in a bracket with a version: a label, a blank, three numbers with points between them, and a rest. -/
structure Bracket where
  label : List Char
  major : List Char
  minor : List Char
  build : List Char
  tail : List Char

namespace Bracket

/-- The letters behind the opening bracket, with the closing one. -/
def text (bracket : Bracket) : List Char :=
  bracket.label ++ ' ' ::
    (bracket.major ++ '.' :: (bracket.minor ++ '.' :: (bracket.build ++ (bracket.tail ++ [']']))))

theorem text_final (bracket : Bracket) : ∃ start, bracket.text = start ++ [']'] :=
  ⟨bracket.label ++ ' ' :: (bracket.major ++ '.' :: (bracket.minor ++ '.' :: (bracket.build ++ bracket.tail))),
    by simp [text]⟩

def groups (bracket : Bracket) : List (List Char) := [bracket.major, bracket.minor, bracket.build]

structure Fits (bracket : Bracket) : Prop where
  labelled : bracket.label ≠ []
  solid : ∀ c ∈ bracket.label, Blank.isBlank c = false
  major : IsRun bracket.major
  minor : IsRun bracket.minor
  build : IsRun bracket.build
  ended : ∀ c ∈ bracket.tail.head?, Digit.isDigit c = false
  closed : ']' ∉ bracket.tail

def value (digits : List Char) : Nat := Numeral.ofDigits 10 (digits.filterMap Digit.value?)

def version (bracket : Bracket) : Version := ⟨value bracket.major, value bracket.minor, value bracket.build⟩

/-- No number is too long to be read. -/
def Short (bracket : Bracket) : Prop := ∀ group ∈ bracket.groups, group.length ≤ Numeral.digitLimit

end Bracket

section Reading

variable {text rest digits tail : List Char} {found : List (List Char)} {bracket : Bracket}

abbrev Stops (text : List Char) : Prop := ∀ c ∈ text.head?, Digit.isDigit c = false

theorem digits_run (run : IsRun digits) (stops : Stops rest) : Version.digits (digits ++ rest) = (digits, rest) := by
  rw [Version.digits, List.takeWhile_append_of_pos run.digit, List.dropWhile_append_of_pos run.digit]
  cases rest with
  | nil => simp
  | cons c more => simp [stops c rfl]

theorem digits_split (text : List Char) : text = (Version.digits text).1 ++ (Version.digits text).2 ∧
    (∀ c ∈ (Version.digits text).1, Digit.isDigit c = true) ∧ Stops (Version.digits text).2 := by
  refine ⟨List.takeWhile_append_dropWhile.symm, fun c member => List.mem_takeWhile_imp member, fun c first => ?_⟩
  have left := List.head?_dropWhile_not Digit.isDigit text
  rwa [show (text.dropWhile Digit.isDigit).head? = some c from first] at left

theorem skip?_some_iff {expected : Char} : skip? expected text = some rest ↔ text = expected :: rest := by
  cases text with
  | nil => simp [skip?]
  | cons c more => by_cases same : c = expected <;> simp [skip?, same]

theorem numbers?_some_iff : numbers? text = some (found, rest) ↔ ∃ major minor build,
    IsRun major ∧ IsRun minor ∧ IsRun build ∧ Stops rest ∧ found = [major, minor, build] ∧
      text = major ++ '.' :: (minor ++ '.' :: (build ++ rest)) := by
  constructor
  · intro read
    simp only [numbers?, Option.bind_eq_bind, Option.bind_eq_some_iff, skip?_some_iff] at read
    obtain ⟨afterMajor, firstPoint, afterMinor, secondPoint, kept⟩ := read
    obtain ⟨whole, major, _⟩ := digits_split text
    obtain ⟨wholeMinor, minor, _⟩ := digits_split afterMajor
    obtain ⟨wholeBuild, build, stops⟩ := digits_split afterMinor
    split at kept
    · cases kept
    next filled =>
      cases kept
      simp only [Bool.or_eq_true, List.isEmpty_iff, not_or] at filled
      refine ⟨_, _, _, ⟨filled.1.1, major⟩, ⟨filled.1.2, minor⟩, ⟨filled.2, build⟩, stops, rfl, ?_⟩
      rw [← wholeBuild, ← secondPoint, ← wholeMinor, ← firstPoint, ← whole]
  · rintro ⟨major, minor, build, first, second, third, stops, rfl, rfl⟩
    have point (more : List Char) : Stops ('.' :: more) := by
      rintro _ ⟨⟩
      decide
    have skipped (more : List Char) : skip? '.' ('.' :: more) = some more := skip?_some_iff.mpr rfl
    simp [numbers?, digits_run first (point _), digits_run second (point _), digits_run third stops, skipped,
      first.filled, second.filled, third.filled]

theorem closes_iff : closes text = true ↔ ∃ tail, ']' ∉ tail ∧ text = tail ++ [']'] := by
  induction text with
  | nil => simp [closes]
  | cons c rest ih =>
    rw [closes]
    split
    next same =>
      subst same
      constructor
      · intro last
        exact ⟨[], by simp, by rw [List.isEmpty_iff.mp last]; rfl⟩
      · rintro ⟨tail, plain, shape⟩
        cases tail with
        | nil => simpa using shape
        | cons d more =>
          obtain ⟨rfl, _⟩ := List.cons.inj shape
          exact absurd List.mem_cons_self plain
    next other =>
      rw [ih]
      constructor
      · rintro ⟨tail, plain, rfl⟩
        exact ⟨c :: tail, by simp [plain, Ne.symm other], rfl⟩
      · rintro ⟨tail, plain, shape⟩
        cases tail with
        | nil => exact absurd (List.cons.inj shape).1 other
        | cons d more =>
          exact ⟨more, fun member => plain (List.mem_cons_of_mem _ member), (List.cons.inj shape).2⟩

theorem bracket?_text (fits : bracket.Fits) : bracket? bracket.text = some bracket.groups := by
  have named : (bracket.text).takeWhile (!Blank.isBlank ·) = bracket.label := by
    rw [Bracket.text, List.takeWhile_append_of_pos fun c member => by simp [fits.solid c member]]
    simp [show Blank.isBlank ' ' = true by decide]
  have stops : Stops (bracket.tail ++ [']']) := by
    cases shape : bracket.tail with
    | nil =>
      rintro _ ⟨⟩
      decide
    | cons c more => exact fun d same => fits.ended d (by rw [shape]; exact same)
  have numbers := numbers?_some_iff.mpr ⟨_, _, _, fits.major, fits.minor, fits.build, stops, rfl, rfl⟩
  have closing : closes (bracket.tail ++ [']']) = true := closes_iff.mpr ⟨_, fits.closed, rfl⟩
  have behind : skip? ' ' (bracket.text.drop bracket.label.length) =
      some (bracket.major ++ '.' :: (bracket.minor ++ '.' :: (bracket.build ++ (bracket.tail ++ [']'])))) := by
    rw [Bracket.text, List.drop_left]
    rfl
  simp only [bracket?, named, List.isEmpty_iff, if_neg fits.labelled, behind, numbers, closing, Option.bind_eq_bind,
    Option.bind_some, if_true]
  rfl

theorem bracket?_some (read : bracket? text = some found) :
    ∃ bracket : Bracket, bracket.Fits ∧ text = bracket.text ∧ found = bracket.groups := by
  simp only [bracket?, List.isEmpty_iff, Option.bind_eq_bind] at read
  split at read
  · cases read
  next labelled =>
    simp only [Option.bind_eq_some_iff, skip?_some_iff] at read
    obtain ⟨behind, blank, ⟨numbers, rest⟩, taken, kept⟩ := read
    split at kept
    next closing =>
      cases kept
      obtain ⟨major, minor, build, first, second, third, stops, rfl, rfl⟩ := numbers?_some_iff.mp taken
      obtain ⟨tail, closed, rfl⟩ := closes_iff.mp closing
      refine ⟨⟨_, major, minor, build, tail⟩, ⟨labelled, ?_, first, second, third, ?_, closed⟩, ?_, rfl⟩
      · intro c member
        simpa using List.mem_takeWhile_imp member
      · intro c head
        exact stops c (by rw [List.head?_append, Option.mem_def.mp head]; rfl)
      · have whole := List.prefix_iff_eq_append.mp (List.takeWhile_prefix (!Blank.isBlank ·) (l := text))
        rw [blank] at whole
        exact whole.symm
    · cases kept

end Reading

/-- The text ends in a bracket of the form, with something in front of it. -/
structure Announces (text front : List Char) (bracket : Bracket) : Prop where
  fits : bracket.Fits
  written : text = front ++ '[' :: bracket.text

/-- No other bracket of the form opens in front of it. -/
structure Leftmost (text front : List Char) (bracket : Bracket) : Prop extends Announces text front bracket where
  first : ∀ other later, Announces text other later → front.length ≤ other.length

section Finding

variable {text front : List Char} {c : Char} {bracket : Bracket}

theorem announces_cons : Announces (c :: text) front bracket ↔
    (front = [] ∧ c = '[' ∧ bracket.Fits ∧ text = bracket.text) ∨
      ∃ shorter, front = c :: shorter ∧ Announces text shorter bracket := by
  constructor
  · rintro ⟨fits, written⟩
    cases front with
    | nil =>
      obtain ⟨rfl, rfl⟩ := List.cons.inj written
      exact .inl ⟨rfl, rfl, fits, rfl⟩
    | cons d shorter =>
      obtain ⟨rfl, rfl⟩ := List.cons.inj written
      exact .inr ⟨shorter, rfl, fits, rfl⟩
  · rintro (⟨rfl, rfl, fits, rfl⟩ | ⟨shorter, rfl, fits, rfl⟩)
    · exact ⟨fits, rfl⟩
    · exact ⟨fits, rfl⟩

/-- The search goes on as long as no bracket of the form opens at the head. -/
theorem find?_step (text : List Char) (c : Char) :
    (c = '[' ∧ ∃ bracket : Bracket, bracket.Fits ∧ text = bracket.text ∧ find? (c :: text) = some bracket.groups) ∨
      (find? (c :: text) = find? text ∧
        ∀ front bracket, Announces (c :: text) front bracket →
          ∃ shorter, front = c :: shorter ∧ Announces text shorter bracket) := by
  have goesOn (none : (if c = '[' then bracket? text else none) = none) : find? (c :: text) = find? text := by
    rw [find?, none]
  by_cases opens : c = '['
  · cases read : bracket? text with
    | some found =>
      obtain ⟨bracket, fits, rfl, rfl⟩ := bracket?_some read
      exact .inl ⟨opens, bracket, fits, rfl, by rw [find?, if_pos opens, read]⟩
    | none =>
      refine .inr ⟨goesOn (by rw [if_pos opens, read]), fun front bracket announces => ?_⟩
      rcases announces_cons.mp announces with ⟨_, _, fits, rfl⟩ | later
      · rw [bracket?_text fits] at read
        cases read
      · exact later
  · refine .inr ⟨goesOn (if_neg opens), fun front bracket announces => ?_⟩
    rcases announces_cons.mp announces with ⟨_, same, _⟩ | later
    · exact absurd same opens
    · exact later

theorem find?_cases (text : List Char) :
    (find? text = none ∧ ∀ front bracket, ¬ Announces text front bracket) ∨
      ∃ front bracket, Leftmost text front bracket ∧ find? text = some bracket.groups := by
  induction text with
  | nil =>
    refine .inl ⟨rfl, fun front bracket announces => ?_⟩
    simpa using announces.written
  | cons c rest ih =>
    rcases find?_step rest c with ⟨rfl, bracket, fits, rfl, found⟩ | ⟨same, behind⟩
    · exact .inr ⟨[], bracket, ⟨⟨fits, rfl⟩, fun _ _ _ => Nat.zero_le _⟩, found⟩
    · rcases ih with ⟨nothing, nowhere⟩ | ⟨front, bracket, leftmost, found⟩
      · refine .inl ⟨same.trans nothing, fun front bracket announces => ?_⟩
        obtain ⟨shorter, _, later⟩ := behind front bracket announces
        exact nowhere shorter bracket later
      · refine .inr ⟨c :: front, bracket, ⟨⟨leftmost.fits, by rw [leftmost.written]; rfl⟩, ?_⟩, same.trans found⟩
        intro other later announces
        obtain ⟨shorter, rfl, announced⟩ := behind other later announces
        exact Nat.succ_le_succ (leftmost.first shorter later announced)

theorem find?_leftmost (leftmost : Leftmost text front bracket) : find? text = some bracket.groups := by
  rcases find?_cases text with ⟨_, nowhere⟩ | ⟨other, found, first, same⟩
  · exact absurd leftmost.toAnnounces (nowhere front bracket)
  · have fronts : front.length = other.length :=
      Nat.le_antisymm (leftmost.first _ _ first.toAnnounces) (first.first _ _ leftmost.toAnnounces)
    have written := leftmost.written.symm.trans first.written
    obtain ⟨_, inside⟩ := List.append_inj written fronts
    have read := bracket?_text first.fits
    rw [← (List.cons.inj inside).2, bracket?_text leftmost.fits] at read
    rw [same, ← Option.some.inj read]

end Finding

section Numbers

variable {bracket : Bracket} {front : List Char} {output : String}

theorem read_cases {digits : List Char} (run : IsRun digits) :
    (digits.length ≤ Numeral.digitLimit ∧ Numeral.read (.ofList digits) = .ok (Bracket.value digits)) ∨
      (Numeral.digitLimit < digits.length ∧ Numeral.read (.ofList digits) = .error (.tooLong digits.length)) := by
  rw [read_run run]
  split
  next long => exact .inr ⟨long, rfl⟩
  next short => exact .inl ⟨Nat.not_lt.mp short, rfl⟩

theorem ofNumerals_cases (fits : bracket.Fits) :
    (bracket.Short ∧ ofNumerals bracket.groups = .ok (some bracket.version)) ∨
      ∃ group ∈ bracket.groups, Numeral.digitLimit < group.length ∧
        ofNumerals bracket.groups = .error (.tooLong group.length) := by
  rcases read_cases fits.major with ⟨shortMajor, major⟩ | ⟨long, major⟩
  · rcases read_cases fits.minor with ⟨shortMinor, minor⟩ | ⟨long, minor⟩
    · rcases read_cases fits.build with ⟨shortBuild, build⟩ | ⟨long, build⟩
      · refine .inl ⟨by simp [Bracket.Short, Bracket.groups, shortMajor, shortMinor, shortBuild], ?_⟩
        rw [Bracket.groups, ofNumerals, major, minor, build]
        rfl
      · refine .inr ⟨_, by simp [Bracket.groups], long, ?_⟩
        rw [Bracket.groups, ofNumerals, major, minor, build]
        rfl
    · refine .inr ⟨_, by simp [Bracket.groups], long, ?_⟩
      rw [Bracket.groups, ofNumerals, major, minor]
      rfl
  · refine .inr ⟨_, by simp [Bracket.groups], long, ?_⟩
    rw [Bracket.groups, ofNumerals, major]
    rfl

def stripped (output : String) : List Char := Blank.stripBy Blank.isBlank output.toList

theorem ofBanner_leftmost (leftmost : Leftmost (stripped output) front bracket) :
    ofBanner output = ofNumerals bracket.groups := by
  unfold ofBanner
  rw [show find? (Blank.stripBy Blank.isBlank output.toList) = some bracket.groups from find?_leftmost leftmost]

theorem ofBanner_short (leftmost : Leftmost (stripped output) front bracket) (short : bracket.Short) :
    ofBanner output = .ok (some bracket.version) := by
  rw [ofBanner_leftmost leftmost]
  rcases ofNumerals_cases leftmost.fits with ⟨_, read⟩ | ⟨group, member, long, _⟩
  · exact read
  · exact absurd (short group member) (Nat.not_le.mpr long)

theorem ofBanner_none (nowhere : ∀ front bracket, ¬ Announces (stripped output) front bracket) :
    ofBanner output = .ok none := by
  unfold ofBanner
  rcases find?_cases (stripped output) with ⟨nothing, _⟩ | ⟨front, bracket, leftmost, _⟩
  · rw [show find? (Blank.stripBy Blank.isBlank output.toList) = none from nothing]
  · exact absurd leftmost.toAnnounces (nowhere front bracket)

end Numbers

section Printing

def printed (label : String) (major minor build : Nat) (tail : String) : Bracket :=
  ⟨label.toList, (toString major).toList, (toString minor).toList, (toString build).toList, tail.toList⟩

theorem decimal_value (n : Nat) : Bracket.value (toString n).toList = n := by
  rw [Bracket.value, ofDigits_basic (decimal_digits n), (number_decimal n).value]

variable {label tail : String}

theorem printed_fits (labelled : label ≠ "") (solid : ∀ c ∈ label.toList, Blank.isBlank c = false)
    (ended : ∀ c ∈ tail.toList.head?, Digit.isDigit c = false) (closed : ']' ∉ tail.toList) (major minor build : Nat) :
    (printed label major minor build tail).Fits :=
  ⟨labelled ∘ String.toList_eq_nil_iff.mp, solid, decimal_run major, decimal_run minor, decimal_run build, ended, closed⟩

/-- Where nothing opens in front of a bracket of the form, and only blanks stand behind it, it is the first one. -/
theorem leftmost_printed {bracket : Bracket} (fits : bracket.Fits) {front closing : List Char} (plain : '[' ∉ front)
    (behind : ∀ c ∈ closing, Blank.isBlank c = true) :
    Leftmost (Blank.stripBy Blank.isBlank (front ++ '[' :: (bracket.text ++ closing)))
      (front.dropWhile Blank.isBlank) bracket := by
  have head : ∃ c rest, front.dropWhile Blank.isBlank ++ '[' :: bracket.text = c :: rest ∧ Blank.isBlank c = false := by
    have left := List.head?_dropWhile_not Blank.isBlank front
    cases shape : front.dropWhile Blank.isBlank with
    | nil => exact ⟨_, _, rfl, by decide⟩
    | cons c rest =>
      rw [shape] at left
      exact ⟨_, _, rfl, left⟩
  have final : ∃ start c, front.dropWhile Blank.isBlank ++ '[' :: bracket.text = start ++ [c] ∧ Blank.isBlank c = false := by
    obtain ⟨start, ends⟩ := bracket.text_final
    exact ⟨front.dropWhile Blank.isBlank ++ '[' :: start, ']', by simp [ends], by decide⟩
  have blank : ∀ c ∈ front.takeWhile Blank.isBlank, Blank.isBlank c = true := fun c member => List.mem_takeWhile_imp member
  have core := stripBy_core blank behind head final
  have whole : front ++ '[' :: (bracket.text ++ closing) = front.takeWhile Blank.isBlank ++
      (front.dropWhile Blank.isBlank ++ '[' :: bracket.text ++ closing) := by
    rw [List.append_assoc, ← List.append_assoc (front.takeWhile _), List.takeWhile_append_dropWhile]
    rfl
  rw [whole, core]
  refine ⟨⟨fits, rfl⟩, fun other later announces => ?_⟩
  rcases List.append_eq_append_iff.mp announces.written with ⟨more, rfl, _⟩ | ⟨more, same, opens⟩
  · simp
  · cases more with
    | nil => simp [same]
    | cons c rest =>
      obtain ⟨rfl, _⟩ := List.cons.inj opens
      have inside : '[' ∈ front.dropWhile Blank.isBlank := by simp [same]
      exact absurd ((List.dropWhile_sublist _).mem inside) plain

end Printing

theorem Announces.short {text front : List Char} {bracket : Bracket} (announces : Announces text front bracket)
    (few : text.length ≤ Numeral.digitLimit) : bracket.Short := by
  have counted := congrArg List.length announces.written
  simp only [Bracket.text, List.length_append, List.length_cons, List.length_nil] at counted
  intro group member
  simp only [Bracket.groups, List.mem_cons, List.not_mem_nil, or_false] at member
  rcases member with rfl | rfl | rfl <;> omega

/-- A version is read off a text exactly if the text, without the blanks around it, ends in a bracket of the form. It is
then that of the first such bracket, however many there are. What is printed in the form, behind a text in which nothing
opens, is read back. Only numbers that are too long are left out. -/
theorem bracketed_version_read :
    (∀ output, (∀ front bracket, Leftmost (stripped output) front bracket → bracket.Short) →
      ((∃ version, ofBanner output = .ok (some version)) ↔ ∃ front bracket, Announces (stripped output) front bracket) ∧
      (ofBanner output = .ok none ↔ ¬ ∃ front bracket, Announces (stripped output) front bracket) ∧
      (∀ version, ofBanner output = .ok (some version) ↔
        ∃ front bracket, Leftmost (stripped output) front bracket ∧ bracket.version = version)) ∧
    (∀ opening front label tail closing : String, ∀ major minor build : Nat,
      (∀ c ∈ opening.toList, Blank.isBlank c = true) → '[' ∉ front.toList →
      label ≠ "" → (∀ c ∈ label.toList, Blank.isBlank c = false) →
      (∀ c ∈ tail.toList.head?, Digit.isDigit c = false) → ']' ∉ tail.toList →
      (∀ c ∈ closing.toList, Blank.isBlank c = true) →
      (∀ n ∈ [major, minor, build], (toString n).length ≤ Numeral.digitLimit) →
      ofBanner (opening ++ front ++ "[" ++ label ++ " " ++ toString major ++ "." ++ toString minor ++ "." ++
        toString build ++ tail ++ "]" ++ closing) = .ok (some ⟨major, minor, build⟩)) := by
  constructor
  · intro output short
    rcases find?_cases (stripped output) with ⟨_, nowhere⟩ | ⟨front, bracket, leftmost, _⟩
    · have unknown := ofBanner_none nowhere
      refine ⟨by simp [unknown, nowhere], by simp [unknown, nowhere], fun version => ?_⟩
      rw [unknown]
      constructor
      · rintro ⟨⟩
      · rintro ⟨front, bracket, leftmost, _⟩
        exact absurd leftmost.toAnnounces (nowhere front bracket)
    · have known := ofBanner_short leftmost (short front bracket leftmost)
      have there : ∃ front bracket, Announces (stripped output) front bracket := ⟨front, bracket, leftmost.toAnnounces⟩
      refine ⟨by simp [known, there], by simp [known, there], fun version => ?_⟩
      constructor
      · intro read
        rw [known] at read
        cases read
        exact ⟨front, bracket, leftmost, rfl⟩
      · rintro ⟨_, other, first, rfl⟩
        exact ofBanner_short first (short _ other first)
  · intro opening front label tail closing major minor build blank plain labelled solid ended closed behind lengths
    have fits := printed_fits labelled solid ended closed major minor build
    have bare : '[' ∉ opening.toList ++ front.toList := by
      intro member
      rcases List.mem_append.mp member with inside | inside
      · exact absurd (blank '[' inside) (by decide)
      · exact plain inside
    have leftmost := leftmost_printed fits bare behind
    have letters : stripped (opening ++ front ++ "[" ++ label ++ " " ++ toString major ++ "." ++ toString minor ++ "." ++
        toString build ++ tail ++ "]" ++ closing) = Blank.stripBy Blank.isBlank
          (opening.toList ++ front.toList ++ '[' :: ((printed label major minor build tail).text ++ closing.toList)) := by
      simp [stripped, printed, Bracket.text]
    rw [← letters] at leftmost
    have short : (printed label major minor build tail).Short := by
      intro group member
      obtain ⟨n, listed, rfl⟩ : ∃ n ∈ [major, minor, build], group = (toString n).toList := by
        simpa [Bracket.groups, printed] using member
      exact lengths n listed
    rw [ofBanner_short leftmost short]
    simp only [Bracket.version, printed, decimal_value]

/-- Three brackets are none of the form, and the form is that of the fourth. A fifth stands in what is left. -/
def crowded : String := "\r\n[] Windows [a [b] ٣.00.19045 [x 1.2.3]\n"

theorem bracketed_version_read_crowded :
    (∀ front bracket, Leftmost (stripped crowded) front bracket → bracket.Short) ∧
    (∃ front bracket, Leftmost (stripped crowded) front bracket ∧ bracket.version = ⟨3, 0, 19045⟩) ∧
    ofBanner ("\n" ++ " ] " ++ "[" ++ "V[]" ++ " " ++ toString 10 ++ "." ++ toString 0 ++ "." ++ toString 7 ++ ".1[" ++ "]" ++
      "\t") = .ok (some ⟨10, 0, 7⟩) := by
  have short : ∀ front bracket, Leftmost (stripped crowded) front bracket → bracket.Short :=
    fun front bracket leftmost => leftmost.short (by decide)
  have read : ofBanner crowded = .ok (some ⟨3, 0, 19045⟩) := by rfl
  refine ⟨short, ((bracketed_version_read.1 crowded short).2.2 _).mp read, ?_⟩
  have ended : ∀ c ∈ ".1[".toList.head?, Digit.isDigit c = false := by
    rintro _ ⟨⟩
    decide
  exact bracketed_version_read.2 "\n" " ] " "V[]" ".1[" "\t" 10 0 7 (by simp; decide) (by decide) (by decide) (by simp; decide)
    ended (by decide) (by simp; decide) (by decide)

end TermStyle.Proofs.VersionBanner
