import TermStyle.Detection
import TermStyle.Proofs.ArgumentValues

/-! The versions of the one build server that is asked for its version. Two patterns are tried, one for the ninth release at
the head of the text and one for a number of several digits anywhere. They overlap: a text of the first that is not of the
second has a minor number of one digit. So a pair of digits in front of a point settles all versions but those, and for
versions as they are usually written it is a comparison of numbers. -/

namespace TermStyle.Proofs.TeamcityVersion
open Text Detection NumeralReading ArgumentValues

def IsCounting (c : Char) : Prop := '1' ≤ c ∧ c ≤ '9'

/-- Release nine, and behind zeros of its minor number a basic digit that is none, then digits of any scripts. -/
def IsNinthRelease (text : List Char) : Prop :=
  ∃ zeros minor digits rest, (∀ c ∈ zeros, c = '0') ∧ IsCounting minor ∧ (∀ c ∈ digits, Digit.isDigit c = true) ∧
    text = '9' :: '.' :: (zeros ++ minor :: (digits ++ '.' :: rest))

/-- Somewhere two digits or more, of any scripts, stand in front of a point. -/
def HasLongRun (text : List Char) : Prop :=
  ∃ front digits rest, (∀ c ∈ digits, Digit.isDigit c = true) ∧ 2 ≤ digits.length ∧ text = front ++ (digits ++ '.' :: rest)

/-- Two digits of any scripts stand side by side, with a point right behind them. -/
def Paired (text : List Char) : Prop :=
  ∃ front first second rest, Digit.isDigit first = true ∧ Digit.isDigit second = true ∧
    text = front ++ first :: second :: '.' :: rest

/-- Release nine with a minor number of one basic digit that is not zero. -/
def IsShortNinth (text : List Char) : Prop :=
  ∃ minor rest, IsCounting minor ∧ text = '9' :: '.' :: minor :: '.' :: rest

section Letters

variable {c : Char}

theorem counting_iff : IsCounting c ↔ 49 ≤ c.toNat ∧ c.toNat ≤ 57 := by
  simp [IsCounting, Char.le_def, UInt32.le_iff_toNat_le]

theorem counting_digit (counting : IsCounting c) : Digit.isDigit c = true := by
  apply ascii_isDigit
  apply isAsciiDigit_iff.mpr
  exact ⟨Char.le_trans (by decide) counting.1, counting.2⟩

theorem counting_filled (counting : IsCounting c) : (c == '0') = false := by
  apply beq_eq_false_iff_ne.mpr
  intro zero
  obtain ⟨least, _⟩ := counting_iff.mp counting
  rw [zero] at least
  exact absurd least (by decide)

theorem zero_digit : Digit.isDigit '0' = true := ascii_isDigit (by decide)

theorem point_undigit : Digit.isDigit '.' = false := by decide

end Letters

section Pairs

variable {text rest digits : List Char} {c : Char}

theorem paired_cons_iff : Paired (c :: text) ↔
    (∃ second rest, Digit.isDigit c = true ∧ Digit.isDigit second = true ∧ text = second :: '.' :: rest) ∨ Paired text := by
  constructor
  · intro paired
    obtain ⟨front, first, second, rest, one, two, whole⟩ := paired
    cases front with
    | nil =>
      obtain ⟨rfl, behind⟩ := List.cons.inj whole
      exact Or.inl ⟨second, rest, one, two, behind⟩
    | cons d front => exact Or.inr ⟨front, first, second, rest, one, two, (List.cons.inj whole).2⟩
  · intro either
    rcases either with ⟨second, rest, one, two, rfl⟩ | ⟨front, first, second, rest, one, two, rfl⟩
    · exact ⟨[], c, second, rest, one, two, rfl⟩
    · exact ⟨c :: front, first, second, rest, one, two, rfl⟩

theorem paired_nil : ¬ Paired [] := by
  intro paired
  obtain ⟨front, first, second, rest, _, _, whole⟩ := paired
  simp at whole

theorem hasLongNumber_cons_iff : hasLongNumber (c :: text) = true ↔
    (∃ second rest, Digit.isDigit c = true ∧ Digit.isDigit second = true ∧ text = second :: '.' :: rest) ∨
      hasLongNumber text = true := by
  cases text with
  | nil => simp [hasLongNumber]
  | cons second behind =>
    cases behind with
    | nil => simp [hasLongNumber]
    | cons point rest => simp [hasLongNumber, and_assoc]

theorem hasLongNumber_iff : hasLongNumber text = true ↔ Paired text := by
  induction text with
  | nil => simp [hasLongNumber, paired_nil]
  | cons c rest ih => rw [hasLongNumber_cons_iff, paired_cons_iff, ih]

theorem Paired.behind (paired : Paired text) (front : List Char) : Paired (front ++ text) := by
  obtain ⟨ahead, first, second, rest, one, two, rfl⟩ := paired
  exact ⟨front ++ ahead, first, second, rest, one, two, by rw [List.append_assoc]⟩

/-- A run of digits in front of a point makes a pair as soon as it is longer than one. -/
theorem paired_run_iff (run : ∀ c ∈ digits, Digit.isDigit c = true) :
    Paired (digits ++ '.' :: rest) ↔ 2 ≤ digits.length ∨ Paired rest := by
  induction digits with
  | nil => simp [paired_cons_iff, point_undigit]
  | cons c more ih =>
    have shorter := ih fun d member => run d (List.mem_cons_of_mem _ member)
    rw [List.cons_append, paired_cons_iff, shorter, List.length_cons]
    cases more with
    | nil =>
      simp [point_undigit]
    | cons d later =>
      have long : 2 ≤ (d :: later).length + 1 := by simp
      refine iff_of_true ?_ (Or.inl long)
      cases later with
      | nil => exact Or.inl ⟨d, rest, run c (by simp), run d (by simp), rfl⟩
      | cons e _ => exact Or.inr (Or.inl (by simp))

theorem paired_iff_longRun : Paired text ↔ HasLongRun text := by
  constructor
  · intro paired
    obtain ⟨front, first, second, rest, one, two, rfl⟩ := paired
    exact ⟨front, [first, second], rest, by simp [one, two], Nat.le_refl 2, rfl⟩
  · intro long
    obtain ⟨front, digits, rest, run, least, rfl⟩ := long
    exact ((paired_run_iff run).mpr (Or.inl least)).behind front

theorem paired_point (paired : Paired text) : '.' ∈ text := by
  obtain ⟨front, first, second, rest, _, _, rfl⟩ := paired
  simp

end Pairs

section Releases

variable {text : List Char}

theorem isNinth_iff : isNinth text = true ↔ IsNinthRelease text := by
  constructor
  · intro ninth
    unfold isNinth at ninth
    split at ninth
    next rest =>
      split at ninth
      next => cases ninth
      next minor more behind =>
        simp only [Bool.and_eq_true, decide_eq_true_eq, beq_iff_eq] at ninth
        obtain ⟨counting, pointed⟩ := ninth
        obtain ⟨tail, after⟩ := List.head?_eq_some_iff.mp pointed
        refine ⟨rest.takeWhile (· == '0'), minor, more.takeWhile Digit.isDigit, tail, ?_, counting, ?_, ?_⟩
        · intro c member
          have zero := List.mem_takeWhile_imp member
          exact beq_iff_eq.mp zero
        · intro c member
          exact List.mem_takeWhile_imp member
        · rw [← after, List.takeWhile_append_dropWhile, ← behind, List.takeWhile_append_dropWhile]
    next => cases ninth
  · intro release
    obtain ⟨zeros, minor, digits, rest, zero, counting, run, rfl⟩ := release
    have skipped : (zeros ++ minor :: (digits ++ '.' :: rest)).dropWhile (· == '0') = minor :: (digits ++ '.' :: rest) := by
      rw [List.dropWhile_append_of_pos fun c member => beq_iff_eq.mpr (zero c member)]
      exact List.dropWhile_cons_of_neg (by simp [counting_filled counting])
    have ended : (digits ++ '.' :: rest).dropWhile Digit.isDigit = '.' :: rest := by
      rw [List.dropWhile_append_of_pos run]
      exact List.dropWhile_cons_of_neg (by simp [point_undigit])
    simp [isNinth, skipped, ended, counting.1, counting.2]

/-- What only the first pattern takes has a minor number of one digit. -/
theorem IsNinthRelease.short (release : IsNinthRelease text) : Paired text ∨ IsShortNinth text := by
  obtain ⟨zeros, minor, digits, rest, zero, counting, run, rfl⟩ := release
  have number : ∀ c ∈ zeros ++ minor :: digits, Digit.isDigit c = true := by
    intro c member
    rcases List.mem_append.mp member with leading | later
    · rw [zero c leading]
      exact zero_digit
    · rcases List.mem_cons.mp later with rfl | inside
      · exact counting_digit counting
      · exact run c inside
  by_cases long : 2 ≤ (zeros ++ minor :: digits).length
  · have pair : Paired (zeros ++ minor :: digits ++ '.' :: rest) := (paired_run_iff number).mpr (Or.inl long)
    rw [List.append_assoc] at pair
    exact Or.inl (pair.behind ['9', '.'])
  · rw [List.length_append, List.length_cons] at long
    have bare : zeros = [] := List.length_eq_zero_iff.mp (by omega)
    have single : digits = [] := List.length_eq_zero_iff.mp (by omega)
    rw [bare, single]
    exact Or.inr ⟨minor, rest, counting, rfl⟩

theorem IsShortNinth.release (short : IsShortNinth text) : IsNinthRelease text := by
  obtain ⟨minor, rest, counting, rfl⟩ := short
  exact ⟨[], minor, [], rest, by simp, counting, by simp, rfl⟩

/-- Of the two patterns, the first adds no more than the short ones to the second. -/
theorem patterns_iff : IsNinthRelease text ∨ HasLongRun text ↔ Paired text ∨ IsShortNinth text := by
  rw [← paired_iff_longRun]
  constructor
  · intro matching
    rcases matching with release | paired
    · exact release.short
    · exact Or.inl paired
  · intro closed
    rcases closed with paired | short
    · exact Or.inr paired
    · exact Or.inl short.release

theorem teamcityTier_patterns (version : String) :
    (teamcityTier version = 1 ↔ IsNinthRelease version.toList ∨ HasLongRun version.toList) ∧
      (teamcityTier version = 0 ↔ ¬ (IsNinthRelease version.toList ∨ HasLongRun version.toList)) := by
  rw [← isNinth_iff, ← paired_iff_longRun, ← hasLongNumber_iff, ← Bool.or_eq_true, teamcityTier]
  split
  next matching => simp [matching]
  next other => simp [other]

end Releases

section Numbers

variable {major minor : Nat}

theorem decimal_long_iff (n : Nat) : 2 ≤ (toString n).toList.length ↔ 10 ≤ n := by
  have bound := Nat.length_toDigits_le_iff (b := 10) (n := n) (k := 1) (by omega) (by omega)
  rw [← Nat.toList_repr] at bound
  change (toString n).toList.length ≤ 1 ↔ n < 10 at bound
  omega

theorem decimal_short {n : Nat} (short : n < 10) : (toString n).toList = [n.digitChar] := by
  change n.repr.toList = _
  rw [Nat.toList_repr, Nat.toDigits_of_lt_base short]

def numbered (major minor patch : Nat) : List Char :=
  (toString major).toList ++ '.' :: ((toString minor).toList ++ '.' :: (toString patch).toList)

theorem paired_numbered (major minor patch : Nat) : Paired (numbered major minor patch) ↔ 10 ≤ major ∨ 10 ≤ minor := by
  have last : ¬ Paired (toString patch).toList := by
    intro paired
    have digit := (decimal_run patch).digit _ (paired_point paired)
    rw [point_undigit] at digit
    cases digit
  rw [numbered, paired_run_iff (decimal_run major).digit, paired_run_iff (decimal_run minor).digit, decimal_long_iff,
    decimal_long_iff, or_iff_left last]

theorem shortNinth_numbered (shortMajor : major < 10) (shortMinor : minor < 10) (patch : Nat) :
    IsShortNinth (numbered major minor patch) ↔ major = 9 ∧ 1 ≤ minor := by
  have first := Nat.toNat_digitChar_of_lt_ten shortMajor
  have second := Nat.toNat_digitChar_of_lt_ten shortMinor
  have letters : numbered major minor patch =
      major.digitChar :: '.' :: minor.digitChar :: '.' :: (toString patch).toList := by
    rw [numbered, decimal_short shortMajor, decimal_short shortMinor]
    rfl
  rw [letters]
  constructor
  · intro short
    obtain ⟨digit, rest, counting, same⟩ := short
    simp only [List.cons.injEq] at same
    obtain ⟨nine, _, rfl, _⟩ := same
    have least := (counting_iff.mp counting).1
    rw [nine] at first
    change 57 = 48 + major at first
    omega
  · intro numbers
    obtain ⟨rfl, least⟩ := numbers
    exact ⟨minor.digitChar, _, counting_iff.mpr (by omega), rfl⟩

theorem closed_numbered (major minor patch : Nat) :
    Paired (numbered major minor patch) ∨ IsShortNinth (numbered major minor patch) ↔
      10 ≤ major ∨ 10 ≤ minor ∨ major = 9 ∧ 1 ≤ minor := by
  rw [paired_numbered]
  by_cases long : 10 ≤ major ∨ 10 ≤ minor
  · refine iff_of_true (Or.inl long) ?_
    omega
  · rw [shortNinth_numbered (by omega) (by omega)]
    omega

end Numbers

theorem tier?_defined {context : Context} {version : String} (given : context.env.get? "TEAMCITY_VERSION" = some version) :
    Rule.teamcity.tier? context = .ok (some (teamcityTier version)) := by
  have found : context.env.get? Variable.teamcityVersion = some version := given
  rw [Rule.tier?, found]
  rfl

/-- A build server shows basic colours exactly if its version has two digits in front of a point, or is release nine with a
minor number of one digit that is not zero. Of a version in three numbers, these have to be large enough. -/
theorem version_decides :
    (∀ (context : Context) (version : String), context.env.get? "TEAMCITY_VERSION" = some version →
      (Rule.teamcity.tier? context = .ok (some 1) ↔ Paired version.toList ∨ IsShortNinth version.toList) ∧
      (Rule.teamcity.tier? context = .ok (some 0) ↔ ¬ (Paired version.toList ∨ IsShortNinth version.toList))) ∧
    ∀ (context : Context) (major minor patch : Nat),
      context.env.get? "TEAMCITY_VERSION" = some (toString major ++ "." ++ toString minor ++ "." ++ toString patch) →
      (Rule.teamcity.tier? context = .ok (some 1) ↔ 10 ≤ major ∨ 10 ≤ minor ∨ major = 9 ∧ 1 ≤ minor) := by
  have closed (context : Context) (version : String) (given : context.env.get? "TEAMCITY_VERSION" = some version) :
      (Rule.teamcity.tier? context = .ok (some 1) ↔ Paired version.toList ∨ IsShortNinth version.toList) ∧
      (Rule.teamcity.tier? context = .ok (some 0) ↔ ¬ (Paired version.toList ∨ IsShortNinth version.toList)) := by
    have patterns := teamcityTier_patterns version
    rw [patterns_iff] at patterns
    rw [tier?_defined given, Except.ok.injEq, Except.ok.injEq, Option.some.injEq, Option.some.injEq]
    exact patterns
  refine ⟨closed, ?_⟩
  intro context major minor patch given
  rw [(closed context _ given).1, ← closed_numbered major minor patch]
  simp [numbered]

def served (version : String) : Context := .ofEnvironment ⟨[("TEAMCITY_VERSION", version)]⟩ false none

/-- Digits of another script make a pair; one digit of the minor number is enough for release nine, if it is not zero. -/
theorem version_decides_scripts :
    Rule.teamcity.tier? (served "release ٣٤.x") = .ok (some 1) ∧ Rule.teamcity.tier? (served "9.1.7") = .ok (some 1) ∧
      Rule.teamcity.tier? (served "9.0.5") = .ok (some 0) := by
  obtain ⟨closed, numbers⟩ := version_decides
  have pair : Paired "release ٣٤.x".toList := ⟨"release ".toList, '٣', '٤', ['x'], by decide, by decide, by decide⟩
  have unanswered : ¬ Rule.teamcity.tier? (served "9.0.5") = .ok (some 1) := by
    rw [numbers (served "9.0.5") 9 0 5 rfl]
    omega
  have old := (closed (served "9.0.5") "9.0.5" rfl).1.not.mp unanswered
  exact ⟨(closed _ _ rfl).1.mpr (Or.inl pair), (numbers _ 9 1 7 rfl).mpr (by omega), (closed _ _ rfl).2.mpr old⟩

end TermStyle.Proofs.TeamcityVersion
