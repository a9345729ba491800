import TermStyle.Proofs.ArgumentValues
import TermStyle.Proofs.ForcedFloor
import TermStyle.Proofs.SeparatedText
import TermStyle.Proofs.SettingsSources

/-! The three places where a number stands for a tier: a value that is given, the variable that forces colours, and the
variable with the level. All of them take the same numerals for the same numbers. They part only over a number that is
out of range, and over a text that is no numeral. -/

namespace TermStyle.Proofs.TierReaders
open Text Numeral NumeralReading Settings Detection ForcedFloor TierReading ExceptSteps SeparatedText SettingsRun
  SettingsSources

section Numerals

variable {text : String} {number : Int} {values : List Nat}

/-- What may stand around a numeral is blank, and nothing in the numeral is. -/
theorem spelled_stripped {sign : Sign} (spelled : Spelled text.toList sign values) :
    Spelled (Blank.strip text).toList sign values := by
  generalize letters : text.toList = whole at spelled
  obtain @⟨front, body, back, _, opening, sign, digits, closing⟩ := spelled
  have head : ∃ c rest, sign.letters ++ body = c :: rest ∧ Blank.isBlank c = false := by
    obtain ⟨c, rest, rfl, first⟩ := digits.head
    have plain := (digit_plain first).1
    cases sign with
    | unsigned => exact ⟨c, rest, rfl, plain⟩
    | plus | minus => exact ⟨_, _, rfl, by decide⟩
  have final : ∃ start c, sign.letters ++ body = start ++ [c] ∧ Blank.isBlank c = false := by
    obtain ⟨start, c, rfl, last⟩ := digits.final
    exact ⟨sign.letters ++ start, c, (List.append_assoc ..).symm, (digit_plain last).1⟩
  have core := stripBy_core (fun c member => padding_blank (opening c member))
    (fun c member => padding_blank (closing c member)) head final
  rw [Blank.strip, String.toList_ofList, letters, ← List.append_assoc sign.letters, core]
  have bare := Spelled.around (List.forall_mem_nil _) sign digits (List.forall_mem_nil _)
  simpa using bare

theorem literal_stripped (literal : Literal text number) : Literal (Blank.strip text) number := by
  obtain ⟨spelled, short⟩ := literal
  exact .short (spelled_stripped spelled) short

theorem literal_filled (literal : Literal text number) : text.isEmpty = false := by
  obtain ⟨spelled, _⟩ := literal
  generalize letters : text.toList = whole at spelled
  obtain ⟨_, _, digits, _⟩ := spelled
  obtain ⟨c, rest, rfl, _⟩ := digits.head
  simp [← String.toList_inj, letters]

/-- Every way to write a whole number in decimal is a numeral for it. -/
theorem decimal_literal (sign : Sign) (magnitude : Nat) (short : (toString magnitude).length ≤ digitLimit)
    {front back : String} (opening : IsPadding front.toList) (closing : IsPadding back.toList) :
    Literal (front ++ String.ofList sign.letters ++ toString magnitude ++ back) (sign.of magnitude) := by
  have ascii := ArgumentValues.decimal_digits magnitude
  have run : IsRun (toString magnitude).toList := ⟨by simp, fun c member => ascii_isDigit (ascii c member)⟩
  have counted : ((toString magnitude).toList.filterMap Digit.value?).length = (toString magnitude).length := by
    rw [List.filterMap_length_eq_length.mpr run.digit, String.length_toList]
  have spelled := Spelled.around opening sign run.digits closing
  have letters : front.toList ++ (sign.letters ++ ((toString magnitude).toList ++ back.toList)) =
      (front ++ String.ofList sign.letters ++ toString magnitude ++ back).toList := by
    simp only [String.toList_append, String.toList_ofList, List.append_assoc]
  rw [letters] at spelled
  have literal := Literal.short spelled (counted.trans_le short)
  rwa [ArgumentValues.ofDigits_basic ascii, (ArgumentValues.number_decimal magnitude).value] at literal

end Numerals

theorem filled?_said {env : Environment} {name text : String} (said : env.get? name = some text)
    (filled : text.isEmpty = false) : env.filled? name = some text := by
  simp [Environment.filled?, said, Option.filter, filled]

section Loading

variable {store : Store} {env other : Environment} {path : Option String}

theorem ofFiles_beside (agree : AgreeBeside Variable.configLevel other env) :
    ofFiles store env path = ofFiles store other path := by
  have home : other.get? Variable.home = env.get? Variable.home := agree _ (by decide)
  have named : other.get? Variable.configPath = env.get? Variable.configPath := agree _ (by decide)
  have places : candidates store env = candidates store other := by
    simp only [candidates, Settings.home, Environment.filled?, home, named]
  simp only [ofFiles, discovered, find, places]

/-- A level that the environment has takes the place of any other, and nothing else changes. -/
theorem overlayEnvironment_beside {files laid : Settings} {level : Value} (agree : AgreeBeside Variable.configLevel other env)
    (overlaid : files.overlayEnvironment other = .ok laid) (read : environmentLevel env files.level = .ok level) :
    files.overlayEnvironment env = .ok { laid with level } := by
  have mode : other.get? Variable.configColor = env.get? Variable.configColor := agree _ (by decide)
  have log : other.get? Variable.configLogLevel = env.get? Variable.configLogLevel := agree _ (by decide)
  obtain ⟨_, _, made⟩ := bind_ok_iff.mp overlaid
  cases made
  simp only [overlayEnvironment, Environment.filled?, mode, log, read]
  rfl

theorem validate_level {settings : Settings} (fine : settings.problem? = none) (number : Int) :
    validate { settings with level := .int number } =
      if 0 ≤ number ∧ number ≤ 3 then .ok { settings with level := .int number }
      else .error (.problem (levelProblem "level" (.int number) none)) := by
  obtain ⟨mode, _, log⟩ := problem?_none_iff.mp fine
  by_cases inside : 0 ≤ number ∧ number ≤ 3
  · have level : isLevel (.int number) = true := by simpa [isLevel] using inside
    have unchanged : problem? { settings with level := .int number } = none := problem?_none_iff.mpr ⟨mode, level, log⟩
    rw [validate, unchanged, if_pos inside]
  · have level : isLevel (.int number) = false := by simpa [isLevel] using inside
    have found : problem? { settings with level := .int number } = some (levelProblem "level" (.int number) none) := by
      simp [problem?, mode, level]
    rw [validate, found, if_neg inside]
    simp [level]

theorem load_literal {text : String} {number : Int} (literal : Literal text number)
    (said : env.get? Variable.configLevel = some text) (agree : AgreeBeside Variable.configLevel other env)
    {settings : Settings} (loaded : (load store other path).value = .ok settings) :
    (load store env path).value =
      if 0 ≤ number ∧ number ≤ 3 then .ok { settings with level := .int number }
      else .error (.problem (levelProblem "level" (.int number) none)) := by
  obtain ⟨files, read, laying⟩ := bind_ok_iff.mp loaded
  obtain ⟨laid, overlaid, validated⟩ := bind_ok_iff.mp laying
  obtain ⟨rfl, fine⟩ := validate_ok validated
  have level : environmentLevel env files.level = .ok (.int number) := by
    unfold environmentLevel
    rw [filled?_said said (literal_filled literal)]
    dsimp only
    rw [read_literal_iff.mpr literal]
  rw [← ofFiles_beside agree] at read
  rw [load_value read, laidOver_ok (overlayEnvironment_beside agree (mapError_ok_iff.mp overlaid) level), validate_level fine]

end Loading

section Tiers

variable {text : String} {number : Int} {env : Environment}

theorem coerce_literal (literal : Literal (Blank.strip text) number) : Tier.coerce (.text text) = .ok (Tier.clamp number) := by
  apply coerce_integer
  rw [integer?, read_literal_iff.mpr literal]
  rfl

theorem floor_literal (given : env.filled? Variable.forceColor = some text) (literal : Literal (Blank.strip text) number) :
    forcedFloor env = (Tier.clamp number).level := by
  unfold forcedFloor
  rw [given]
  dsimp only
  rw [read_literal_iff.mpr literal]

/-- The environment asks for colours in words that are no number. -/
def Unparsable (env : Environment) : Prop :=
  ∃ text, env.filled? "FORCE_COLOR" = some text ∧ ∀ number, ¬ Literal (Blank.strip text) number

theorem unparsable_iff (given : env.filled? Variable.forceColor = some text) :
    Unparsable env ↔ ∀ number, ¬ Literal (Blank.strip text) number := by
  constructor
  · rintro ⟨other, same, unread⟩
    cases given.symm.trans same
    exact unread
  · intro unread
    exact ⟨text, given, unread⟩

theorem floor_unparsable (unparsable : Unparsable env) : forcedFloor env = 1 := by
  obtain ⟨text, given, unread⟩ := unparsable
  change env.filled? Variable.forceColor = some text at given
  unfold forcedFloor
  rw [given]
  dsimp only
  cases read : Numeral.read (Blank.strip text) with
  | error error => rfl
  | ok number => exact absurd (read_literal_iff.mp read) (unread number)

theorem floor_parsable (given : env.filled? Variable.forceColor = some text) (parsable : ¬ Unparsable env) :
    ∃ tier, Tier.coerce (.text text) = .ok tier ∧ forcedFloor env = tier.level := by
  rw [unparsable_iff given, not_forall_not] at parsable
  obtain ⟨number, literal⟩ := parsable
  exact ⟨_, coerce_literal literal, floor_literal given literal⟩

theorem refused_iff (given : env.filled? Variable.forceColor = some text) :
    (∃ error, Tier.coerce (.text text) = .error (.numeral error)) ↔ Unparsable env := by
  constructor
  · rintro ⟨error, refused⟩
    by_contra parsable
    obtain ⟨tier, accepted, _⟩ := floor_parsable given parsable
    cases accepted.symm.trans refused
  · intro unparsable
    have unread := (unparsable_iff given).mp unparsable
    cases read : Numeral.read (Blank.strip text) with
    | error error =>
      rw [Tier.coerce, read]
      exact ⟨error, rfl⟩
    | ok number => exact absurd (read_literal_iff.mp read) (unread number)

end Tiers

/-- What the readers make of a text that stands for the number: the tier, the floor at that tier, and the level itself. -/
structure ReadAlike (text : String) (number : Int) (tier : Tier) : Prop where
  nearest : tier.level = min 3 (max 0 number)
  coerced : Tier.coerce (.text text) = .ok tier
  whole : Tier.coerce (.int number) = .ok tier
  forced : ∀ env : Environment, env.get? "FORCE_COLOR" = some text → forcedFloor env = tier.level
  loaded : ∀ (store : Store) (env other : Environment) (path : Option String) (settings : Settings),
    env.get? "HUECODE_LEVEL" = some text → AgreeBeside "HUECODE_LEVEL" other env →
      (load store other path).value = .ok settings →
      (load store env path).value =
        if 0 ≤ number ∧ number ≤ 3 then .ok { settings with level := .int number }
        else .error (.problem (levelProblem "level" (.int number) none))

theorem literal_readAlike {text : String} {number : Int} (literal : Literal text number) :
    ReadAlike text number (Tier.clamp number) where
  nearest := clamp_level number
  coerced := coerce_literal (literal_stripped literal)
  whole := rfl
  forced _ said := floor_literal (filled?_said said (literal_filled literal)) (literal_stripped literal)
  loaded _ _ _ _ _ said agree loaded := load_literal literal said agree loaded

/-- The readers of a tier agree. A whole number that is written in decimal, with or without a sign and with blanks around,
stands for the nearest tier both as a value and where colours are forced. As a level it stands for itself, and then it has
to be in range. So it is with every other numeral. A text is refused as a value exactly where it forces basic colours for
want of a number. To read a tier once more changes nothing, and a higher number stands for no lower tier. -/
theorem tier_readers_agree :
    (∀ (sign : Sign) (magnitude : Nat) (front back : String), (toString magnitude).length ≤ digitLimit →
      IsPadding front.toList → IsPadding back.toList →
      Literal (front ++ String.ofList sign.letters ++ toString magnitude ++ back) (sign.of magnitude)) ∧
    (∀ text number, Literal text number → ∃ tier, ReadAlike text number tier) ∧
    (∀ text env, text ≠ "" → env.get? "FORCE_COLOR" = some text →
      ((∃ error, Tier.coerce (.text text) = .error (.numeral error)) ↔ Unparsable env) ∧
      (Unparsable env → forcedFloor env = 1) ∧
      (¬ Unparsable env → ∃ tier, Tier.coerce (.text text) = .ok tier ∧ forcedFloor env = tier.level)) ∧
    (∀ number tier, Tier.coerce (.int number) = .ok tier → Tier.coerce (.int tier.level) = .ok tier) ∧
    (∀ low high, low ≤ high → ∃ lower higher, Tier.coerce (.int low) = .ok lower ∧ Tier.coerce (.int high) = .ok higher ∧
      lower.level ≤ higher.level) := by
  refine ⟨?_, ?_, ?_, ?_, ?_⟩
  · intro sign magnitude front back short opening closing
    exact decimal_literal sign magnitude short opening closing
  · intro text number literal
    exact ⟨_, literal_readAlike literal⟩
  · intro text env filled said
    have given : env.filled? Variable.forceColor = some text := filled?_said said (by simpa using filled)
    exact ⟨refused_iff given, floor_unparsable, floor_parsable given⟩
  · intro number tier _
    exact coerce_level tier
  · intro low high ordered
    refine ⟨_, _, rfl, rfl, ?_⟩
    rw [clamp_level, clamp_level, clamped, clamped]
    omega

/-- Around a level, but not around what is stripped first, the separator controls are in the way. -/
example : Tier.coerce (.text "\x1c2") = .ok .extended ∧ Numeral.read "\x1c2" = .error (.malformed 10 "\x1c2") := by
  exact ⟨by rfl, by rfl⟩

def forcedTwo : Environment := ⟨[("FORCE_COLOR", " \t+2\n")]⟩

def plusTwo : Environment := ⟨("HUECODE_LEVEL", " \t+2\n") :: forcedTwo.bindings⟩

def worded : Environment := ⟨[("FORCE_COLOR", "always")]⟩

theorem tier_readers_agree_signed :
    Literal " \t+2\n" 2 ∧ Tier.coerce (.text " \t+2\n") = .ok .extended ∧ forcedFloor plusTwo = 2 ∧
    (load .empty plusTwo none).value = .ok { standard with level := .int 2 } ∧ Unparsable worded ∧ forcedFloor worded = 1 := by
  obtain ⟨written, alike, refusals, _, _⟩ := tier_readers_agree
  have literal : Literal " \t+2\n" 2 := written .plus 2 " \t" "\n" (by decide) (by decide) (by decide)
  obtain ⟨tier, _, coerced, whole, forced, loaded⟩ := alike _ _ literal
  obtain rfl := Except.ok.inj whole
  have agree : AgreeBeside "HUECODE_LEVEL" forcedTwo plusTwo := agreeBeside_cons _ _ _
  have base : (load .empty forcedTwo none).value = .ok standard := by rfl
  have level := loaded .empty plusTwo _ none standard rfl agree base
  rw [if_pos (by decide)] at level
  obtain ⟨refused, basic, _⟩ := refusals "always" worded (by decide) rfl
  have unparsable := refused.mp ⟨_, rfl⟩
  exact ⟨literal, coerced, forced plusTwo rfl, level, unparsable, basic unparsable⟩

end TermStyle.Proofs.TierReaders
