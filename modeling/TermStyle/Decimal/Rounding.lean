import TermStyle.Decimal.Shortest

/-!
Quotients of whole numbers, rounded to a whole number or to a double. Rounding is exact: the nearer of
the two neighbours wins, and an exact half goes to the even one. -/

namespace TermStyle.Decimal.Rounding
open Shortest

def nearest (numerator denominator : Nat) : Nat :=
  let below := numerator / denominator
  let excess := 2 * (numerator % denominator)
  if excess < denominator || (excess == denominator && below % 2 == 0) then below else below + 1

def scaled (numerator denominator : Nat) (scale : Int) : Nat × Nat :=
  (numerator * Nat.pow 2 (-scale).toNat, denominator * Nat.pow 2 scale.toNat)

/-- The finest scale on which a quotient has at most fifty-three bits, and which doubles have. -/
def scale (numerator denominator : Nat) : Int :=
  let fine : Int := (Nat.log2 numerator : Int) - Nat.log2 denominator - 53
  let (above, below) := scaled numerator denominator (fine + 1)
  max (-1074) (if above / below < fractionCount then fine else fine + 1)

/-- The pattern of the doubles that are not finite. -/
def infinityBits : Nat := (scaleCount - 1) * fractionCount

/-- The double nearest to a quotient, which is infinite past the largest one. Neighbouring doubles have
neighbouring patterns, so a carry into the scale needs no care. -/
def double (numerator denominator : Nat) : Float :=
  if numerator = 0 then 0
  else
    let scale := scale numerator denominator
    let (above, below) := scaled numerator denominator scale
    let bits := (scale + 1074).toNat * fractionCount + nearest above below
    .ofBits (min bits infinityBits).toUInt64

def ofInt (value : Int) : Float := if value < 0 then -double value.natAbs 1 else double value.natAbs 1

/-- The integer part of a finite double, toward zero. -/
def truncated (value : Float) : Int :=
  let binary := Binary.ofBits value.toBits
  let magnitude : Nat := binary.mantissa * Nat.pow 2 binary.exponent.toNat / Nat.pow 2 (-binary.exponent).toNat
  if value.toBits >>> 63 == 1 then -magnitude else magnitude

def isExactly (value : Float) (number : Int) : Bool :=
  let binary := Binary.ofBits value.toBits
  !value.isNaN && !value.isInf && truncated value == number &&
    binary.mantissa * Nat.pow 2 binary.exponent.toNat % Nat.pow 2 (-binary.exponent).toNat == 0

end TermStyle.Decimal.Rounding
