/-!
The shortest decimal that reads back as a given double. A finite double is an integer times a power of
two; the reals that round to it form an interval; and the fewest digits are those of the coarsest decimal
grid with a point in that interval. All arithmetic is exact. -/

namespace TermStyle.Decimal.Shortest

/-- The double `mantissa * 2 ^ exponent`. `narrow` says that its lower neighbour is only half as far
away as the upper one. -/
structure Binary where
  mantissa : Nat
  exponent : Int
  narrow : Bool
  deriving DecidableEq, Repr

def fractionCount : Nat := 0x10000000000000

def scaleCount : Nat := 0x800

def Binary.ofBits (bits : UInt64) : Binary :=
  let fraction : Nat := bits.toNat % fractionCount
  let scale : Nat := bits.toNat / fractionCount % scaleCount
  if scale = 0 then ⟨fraction, -1074, false⟩
  else ⟨fractionCount + fraction, (scale : Int) - 1075, fraction == 0 && 1 < scale⟩

/-- A value between two bounds, as quotients by `unit`; the bounds belong to the interval iff `closed`. -/
structure Interval where
  low : Nat
  value : Nat
  high : Nat
  unit : Nat
  closed : Bool

def Binary.interval (b : Binary) : Interval :=
  let step := Nat.pow 2 (b.exponent - 2).toNat
  { low := step * (4 * b.mantissa - if b.narrow then 1 else 2)
    value := step * (4 * b.mantissa)
    high := step * (4 * b.mantissa + 2)
    unit := Nat.pow 2 (2 - b.exponent).toNat
    closed := b.mantissa % 2 == 0 }

def Interval.onGrid (i : Interval) (power : Int) : Interval :=
  let finer := Nat.pow 10 (-power).toNat
  { i with low := i.low * finer, value := i.value * finer, high := i.high * finer, unit := i.unit * Nat.pow 10 power.toNat }

def Interval.holds (i : Interval) (point : Nat) : Bool :=
  if i.closed then i.low ≤ point * i.unit && point * i.unit ≤ i.high
  else i.low < point * i.unit && point * i.unit < i.high

/-- The grid point in the interval that is nearest to the value; an even point wins a tie. -/
def Interval.nearest? (i : Interval) : Option Nat :=
  let below := i.value / i.unit
  let above := below + 1
  match i.holds below, i.holds above with
  | false, false => none
  | true, false => some below
  | false, true => some above
  | true, true =>
    let down := i.value - below * i.unit
    let up := above * i.unit - i.value
    some (if down < up then below else if up < down then above else if below % 2 = 0 then below else above)

def digitCount (n : Nat) : Nat := (Nat.toDigits 10 n).length

def Interval.magnitude (i : Interval) : Int :=
  if i.unit ≤ i.value then (digitCount (i.value / i.unit) : Int) - 1
  else -(digitCount ((i.unit - 1) / i.value) : Int)

/-- Moves the zeros at the end of a number into the power; `fuel` is at least their count. -/
def normalize : Nat → Nat → Int → Nat × Int
  | 0, digits, power => (digits, power)
  | fuel + 1, digits, power =>
    if digits ≠ 0 ∧ digits % 10 = 0 then normalize fuel (digits / 10) (power + 1) else (digits, power)

/-- `(digits, power)` stands for `digits * 10 ^ power`. Seventeen digits always suffice. -/
def Binary.shortest (b : Binary) : Nat × Int :=
  if b.mantissa = 0 then (0, 0) else
  let interval := b.interval
  let hit := (List.range 17).findSome? fun (finer : Nat) =>
    let power := interval.magnitude - finer
    (interval.onGrid power).nearest?.map fun point => (point, power)
  match hit with
  | some (digits, power) => normalize (digitCount digits) digits power
  | none => (0, 0)

/-- How a number is laid out: positional while the power of the leading digit is in the given range,
with an exponent of at least `exponentWidth` digits otherwise. -/
structure Layout where
  least : Int
  bound : Int
  exponentWidth : Nat

/-- Small and large numbers take an exponent, and a whole number keeps one decimal place. -/
def plain : Layout := ⟨-4, 16, 2⟩

def zeros (count : Nat) : String := .ofList (List.replicate count '0')

def exponentText (layout : Layout) (exponent : Int) : String :=
  let digits := toString exponent.natAbs
  (if exponent < 0 then "-" else "+") ++ zeros (layout.exponentWidth - digits.length) ++ digits

def Layout.write (layout : Layout) (digits : Nat) (power : Int) : String :=
  let text := (toString digits).toList
  let leading : Int := text.length + power - 1
  if leading < layout.least || layout.bound ≤ leading then
    let fraction := String.ofList (text.drop 1)
    String.ofList (text.take 1) ++ (if fraction.isEmpty then "" else "." ++ fraction) ++ "e" ++ exponentText layout leading
  else if leading < 0 then "0." ++ zeros (-leading - 1).toNat ++ String.ofList text
  else
    let whole := (leading + 1).toNat
    let fraction := String.ofList (text.drop whole)
    String.ofList (text.take whole) ++ zeros (whole - text.length) ++ "." ++ (if fraction.isEmpty then "0" else fraction)

def text (x : Float) : String :=
  if x.isNaN then "nan"
  else
    let sign := if x.toBits >>> 63 == 1 then "-" else ""
    if x.isInf then sign ++ "inf"
    else
      let (digits, power) := (Binary.ofBits x.toBits).shortest
      sign ++ plain.write digits power

end TermStyle.Decimal.Shortest
