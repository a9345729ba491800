import TermStyle.Decimal.Places

/-!
Numbers as the directives of a percent template write them: filled up to a width, with a sign, a mark for
the base, and as many digits as the precision asks for. -/

namespace TermStyle.Text.Percent
open Decimal

structure Flags where
  left : Bool
  plus : Bool
  space : Bool
  alternate : Bool
  zeros : Bool
  deriving DecidableEq, Repr

def Flags.none : Flags := ⟨false, false, false, false, false⟩

structure Directive where
  flags : Flags
  width : Nat
  precision : Option Nat
  conversion : Char
  deriving DecidableEq, Repr

namespace Directive

def pad (d : Directive) (body : List Char) : List Char :=
  let missing := List.replicate (d.width - body.length) ' '
  if d.flags.left then body ++ missing else missing ++ body

/-- Signs a number and fills it up to the width, with zeros behind sign and mark if so flagged. -/
def padNumber (d : Directive) (negative : Bool) (mark digits : List Char) : List Char :=
  let sign := if negative then ['-'] else if d.flags.plus then ['+'] else if d.flags.space then [' '] else []
  let lead := sign ++ mark
  if d.flags.zeros && !d.flags.left then
    lead ++ List.replicate (d.width - lead.length - digits.length) '0' ++ digits
  else d.pad (lead ++ digits)

def base (d : Directive) : Nat :=
  if d.conversion == 'o' then 8 else if d.conversion == 'x' || d.conversion == 'X' then 16 else 10

def raise (d : Directive) (text : List Char) : List Char :=
  if d.conversion.isUpper then text.map Char.toUpper else text

def integer (d : Directive) (value : Int) : List Char :=
  let digits := Nat.toDigits d.base value.natAbs
  let digits := List.replicate (d.precision.getD 0 - digits.length) '0' ++ digits
  let mark := if !d.flags.alternate then [] else
    if d.base == 8 then ['0', 'o'] else if d.base == 16 then ['0', 'x'] else []
  d.padNumber (value < 0) (d.raise mark) (d.raise digits)

/-- The places of a number that does not say how many it has. -/
def standardPlaces : Nat := 6

def lastPrecision : Nat := 0x7fffffff

def pointed (d : Directive) (whole fraction : List Char) : List Char :=
  whole ++ if fraction.isEmpty && !d.flags.alternate then [] else '.' :: fraction

def exponent (leading : Int) : List Char := 'e' :: (Shortest.exponentText Shortest.plain leading).toList

/-- One digit in front of the point and the places behind it. The largest precision counts as none. -/
def scientific (d : Directive) (value : Shortest.Binary) : List Char :=
  let places := d.precision.getD standardPlaces
  let found := Places.significant value (if places = lastPrecision then 1 else places + 1)
  d.pointed (found.digits.take 1) (found.digits.drop 1) ++ exponent found.leading

/-- Zeros at the end of a fraction are only kept if so flagged. -/
def tidied (d : Directive) (fraction : List Char) : List Char :=
  if d.flags.alternate then fraction else (fraction.reverse.dropWhile (· == '0')).reverse

/-- Positional while the exponent is small, and with an exponent otherwise; here the precision counts
significant digits. -/
def general (d : Directive) (value : Shortest.Binary) : List Char :=
  let count := max (d.precision.getD standardPlaces) 1
  let ⟨digits, leading⟩ := Places.significant value (if d.flags.alternate then count else min count Places.mostDigits)
  if leading < -4 || count ≤ leading then
    d.pointed (digits.take 1) (d.tidied (digits.drop 1)) ++ exponent leading
  else if leading < 0 then
    d.pointed ['0'] (d.tidied (List.replicate (-leading - 1).toNat '0' ++ digits))
  else d.pointed (digits.take (leading.toNat + 1)) (d.tidied (digits.drop (leading.toNat + 1)))

def fixed (d : Directive) (value : Shortest.Binary) : List Char :=
  let (whole, fraction) := Places.fixed value (d.precision.getD standardPlaces)
  d.pointed whole fraction

def magnitude (d : Directive) (value : Shortest.Binary) : List Char :=
  if d.conversion == 'e' || d.conversion == 'E' then d.scientific value
  else if d.conversion == 'g' || d.conversion == 'G' then d.general value
  else d.fixed value

def real (d : Directive) (value : Float) : List Char :=
  let digits :=
    if value.isNaN then "nan".toList else if value.isInf then "inf".toList else d.magnitude (.ofBits value.toBits)
  d.padNumber (value.toBits >>> 63 == 1 && !value.isNaN) [] (d.raise digits)

end Directive

end TermStyle.Text.Percent
