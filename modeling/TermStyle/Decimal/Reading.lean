import TermStyle.Decimal.Rounding
import TermStyle.Numeral

/-!
Reading a decimal fraction into the nearest double: digits with at most one point among them, an optional
power of ten, and the names of infinity and of the value that is no number. -/

namespace TermStyle.Decimal.Reading
open Text

structure Parts where
  digits : List Nat
  power : Int
  deriving DecidableEq, Repr

def digitRun (text : List Char) : List Nat × List Char :=
  ((text.takeWhile Digit.isDigit).filterMap Digit.value?, text.dropWhile Digit.isDigit)

def exponent? : List Char → Option Int
  | [] => some 0
  | mark :: rest =>
    if mark == 'e' || mark == 'E' then
      let (negative, body) := Numeral.signed rest
      let (digits, after) := digitRun body
      if digits.isEmpty || !after.isEmpty then none
      else
        let magnitude : Int := Numeral.ofDigits 10 digits
        some (if negative then -magnitude else magnitude)
    else none

def parts? (text : List Char) : Option Parts :=
  let (whole, rest) := digitRun text
  let (fraction, after) := match rest with
    | '.' :: tail => digitRun tail
    | tail => ([], tail)
  if whole.isEmpty && fraction.isEmpty then none
  else (exponent? after).map fun exponent => ⟨whole ++ fraction, exponent - fraction.length⟩

/-- Powers far outside the range of doubles are settled before any large power of ten is formed. -/
def Parts.toFloat (parts : Parts) : Float :=
  let mantissa := Numeral.ofDigits 10 parts.digits
  let size : Int := (Nat.toDigits 10 mantissa).length + parts.power
  if mantissa = 0 || size < -400 then 0
  else if 400 < size then 1 / 0
  else Rounding.double (mantissa * Nat.pow 10 parts.power.toNat) (Nat.pow 10 (-parts.power).toNat)

def named? (text : List Char) : Option Float :=
  let name := String.ofList (text.map Char.toLower)
  if name == "inf" || name == "infinity" then some (1 / 0)
  else if name == "nan" then some (0 / 0)
  else none

def read? (text : String) : Option Float :=
  let (negative, body) := Numeral.signed (Blank.stripBy Numeral.isPadding text.toList)
  let magnitude? := match named? body with
    | some value => some value
    | none => (parts? body).map Parts.toFloat
  magnitude?.map fun magnitude => if negative then -magnitude else magnitude

end TermStyle.Decimal.Reading
