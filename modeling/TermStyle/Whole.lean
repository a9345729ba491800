import TermStyle.Value

/-!
Whole numbers as they are given: also a truth value is one, and is shown as it was given. -/

namespace TermStyle

structure Whole where
  number : Int
  isTruth : Bool
  deriving DecidableEq, Repr

namespace Whole

def ofInt (number : Int) : Whole := ⟨number, false⟩

def ofBool (value : Bool) : Whole := ⟨if value then 1 else 0, true⟩

def ofValue? : Value → Option Whole
  | .int number => some (ofInt number)
  | .bool value => some (ofBool value)
  | _ => none

def number? (value : Value) : Option Int := (ofValue? value).map (·.number)

def value (whole : Whole) : Value := if whole.isTruth then .bool (whole.number != 0) else .int whole.number

end Whole
end TermStyle
