import TermStyle.Decimal.Rounding
import TermStyle.Whole

/-!
Keys of mappings and members of sets. Numbers are one key if they are equal, whatever their kind; a key
that is no number is only the same as itself. -/

namespace TermStyle.Yaml

/-- A value as a key. The origin tells apart those that equal nothing. -/
structure Key where
  value : Value
  origin : Option Nat

namespace Key

def sameFloat (a b : Key) (x y : Float) : Bool := x == y || (x.isNaN && y.isNaN && a.origin == b.origin)

def isSame (a b : Key) : Bool :=
  match a.value, b.value with
  | .float x, .float y => sameFloat a b x y
  | .date x, .date y => x == y
  | .moment x, .moment y => x.isSame y
  | .text x, .text y => x == y
  | .bytes x, .bytes y => x == y
  | .null, .null => true
  | .float x, y | y, .float x => (Whole.number? y).any (Decimal.Rounding.isExactly x)
  | x, y => (Whole.number? x).isSome && Whole.number? x == Whole.number? y

/-- The last value of a key counts, in the place of the first. -/
def put (entries : List (Key × α)) (entry : Key × α) : List (Key × α) :=
  if entries.any fun known => known.1.isSame entry.1 then
    entries.map fun known => if known.1.isSame entry.1 then (known.1, entry.2) else known
  else entries ++ [entry]

/-! ## The order of sets

A set of numbers shows them in the order of a table of slots. A number goes to the slot that its remainder
names; where that is taken, to one of those behind it, and then elsewhere in the table. -/

/-- Remainders are taken modulo this prime; doubling then only turns the bits around. -/
def modulus : Nat := 0x1fffffffffffffff

def residue (mantissa : Nat) (exponent : Int) : Nat := mantissa * Nat.pow 2 (exponent % 61).toNat % modulus

def slotNumber (negative : Bool) (residue : Nat) : Nat :=
  if residue = 0 then 0 else if negative then 0x10000000000000000 - max residue 2 else residue

def infinityResidue : Nat := 314159

def slotNumber? (value : Value) : Option Nat :=
  match value with
  | .float x =>
    let negative := x.toBits >>> 63 == 1
    let binary := Decimal.Shortest.Binary.ofBits x.toBits
    if x.isNaN then none
    else some (slotNumber negative (if x.isInf then infinityResidue else residue binary.mantissa binary.exponent))
  | value => (Whole.number? value).map fun number => slotNumber (number < 0) (residue number.natAbs 0)

def tableSize (members : Nat) : Nat := if members < 5 then 8 else Nat.pow 2 (Nat.log2 (2 * members) + 1)

def neighbours : Nat := 9

/-- The slots to try one after the other; `fuel` says for how many moves through the table. -/
def slots (size : Nat) : Nat → Nat → Nat → List Nat
  | 0, _, _ => []
  | fuel + 1, slot, rest =>
    let near := if slot + neighbours < size then (List.range (neighbours + 1)).map (slot + ·) else [slot]
    near ++ slots size fuel ((slot * 5 + 1 + rest / 32) % size) (rest / 32)

/-- Places a member in the first slot that is free. -/
def place (size : Nat) (table : List (Nat × Value)) (member : Nat × Value) : List (Nat × Value) :=
  match (slots size (size + 13) (member.1 % size) member.1).find? fun slot => (table.lookup slot).isNone with
  | some slot => (slot, member.2) :: table
  | none => table

/-- The members of a set as they are shown. Where not all are numbers, they keep their order. -/
def shown (members : List Value) : List Value :=
  match members.mapM fun member => (slotNumber? member).map (·, member) with
  | none => members
  | some numbered =>
    let size := tableSize members.length
    let table := numbered.foldl (place size) []
    (List.range size).filterMap fun slot => table.lookup slot

end Key
end TermStyle.Yaml
