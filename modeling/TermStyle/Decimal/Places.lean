import TermStyle.Decimal.Rounding

/-!
Doubles rounded to a decimal grid, given by a number of places or of significant digits. Rounding is
exact: of the two neighbours on the grid the nearer wins, and an exact half goes to the even one. -/

namespace TermStyle.Decimal.Places
open Shortest Rounding

def onGrid (value : Binary) (power : Int) : Nat :=
  nearest (value.mantissa * Nat.pow 2 value.exponent.toNat * Nat.pow 10 (-power).toNat)
    (Nat.pow 2 (-value.exponent).toNat * Nat.pow 10 power.toNat)

/-- Digits, the first of which stands for its multiple of `10 ^ leading`. -/
structure Digits where
  digits : List Char
  leading : Int
  deriving DecidableEq, Repr

/-- No double has more significant digits; from there on there are only zeros. -/
def mostDigits : Nat := 767

/-- No double has more decimal places; from there on there are only zeros. -/
def mostPlaces : Nat := 1074

def zeros (count : Nat) : List Char := List.replicate count '0'

/-- The given number of significant digits. Rounding up may carry into one more, whose last is a zero then. -/
def significant (value : Binary) (count : Nat) : Digits :=
  if value.mantissa = 0 then ⟨zeros count, 0⟩
  else
    let leading := value.interval.magnitude
    let own := min count mostDigits
    let digits := Nat.toDigits 10 (onGrid value (leading + 1 - own))
    ⟨digits.take own ++ zeros (count - own), if own < digits.length then leading + 1 else leading⟩

def fixed (value : Binary) (places : Nat) : List Char × List Char :=
  let own := min places mostPlaces
  let digits := Nat.toDigits 10 (onGrid value (-own))
  let digits := zeros (own + 1 - digits.length) ++ digits
  let (whole, fraction) := digits.splitAt (digits.length - own)
  (whole, fraction ++ zeros (places - own))

end TermStyle.Decimal.Places
