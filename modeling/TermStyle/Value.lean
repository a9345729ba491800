import TermStyle.Calendar
import TermStyle.Decimal.Shortest
import TermStyle.Text.Quoted

/-!
The values a settings document can hold, and the two texts of a value: the one messages show, and the
literal, which also quotes strings and is the form of anything inside a collection. -/

namespace TermStyle
open Text

inductive Value
  | null
  | bool (value : Bool)
  | int (value : Int)
  | float (value : Float)
  | text (value : String)
  | date (value : Calendar.Date)
  | moment (value : Calendar.Moment)
  | bytes (value : List UInt8)
  | tuple (items : List Value)
  | list (items : List Value)
  | set (items : List Value)
  | dict (entries : List (Value × Value))
  /-- A list or dictionary inside itself. -/
  | cycle (dictionary : Bool)

namespace Value

instance : Inhabited Value := ⟨.null⟩

def boolLiteral (value : Bool) : String := if value then "True" else "False"

def byteLiteral (quote : Char) (byte : UInt8) : List Char :=
  let c := Char.ofNat byte.toNat
  if c == quote || c == '\\' then ['\\', c]
  else if c == '\n' then ['\\', 'n']
  else if c == '\r' then ['\\', 'r']
  else if c == '\t' then ['\\', 't']
  else if 0x20 ≤ c.toNat && c.toNat < 0x7f then [c]
  else '\\' :: 'x' :: Quoted.hexDigits 2 byte.toNat

def bytesLiteral (value : List UInt8) : String :=
  let quote := Quoted.quoteFor (value.map fun byte => Char.ofNat byte.toNat)
  .ofList ('b' :: quote :: value.flatMap (byteLiteral quote) ++ [quote])

mutual
def literal : Value → String
  | .null => "None"
  | .bool value => boolLiteral value
  | .int value => toString value
  | .float value => Decimal.Shortest.text value
  | .text value => Quoted.quoted value
  | .date value => value.literal
  | .moment value => value.literal
  | .bytes value => bytesLiteral value
  | .tuple [only] => "(" ++ literal only ++ ",)"
  | .tuple items => "(" ++ ", ".intercalate (literals items) ++ ")"
  | .list items => "[" ++ ", ".intercalate (literals items) ++ "]"
  | .set [] => "set()"
  | .set items => "\x7b" ++ ", ".intercalate (literals items) ++ "\x7d"
  | .cycle dictionary => if dictionary then "\x7b...\x7d" else "[...]"
  | .dict entries => "\x7b" ++ ", ".intercalate (entryLiterals entries) ++ "\x7d"

def literals : List Value → List String
  | [] => []
  | item :: items => literal item :: literals items

def entryLiterals : List (Value × Value) → List String
  | [] => []
  | (key, value) :: entries => (literal key ++ ": " ++ literal value) :: entryLiterals entries
end

/-- The most decimal digits that a whole number is written with. -/
def digitLimit : Nat := 4300

mutual
/-- Whether a value has no text, since a whole number in it is too long to be written. -/
def isOversized : Value → Bool
  | .int value => Nat.pow 10 digitLimit ≤ value.natAbs
  | .tuple items | .list items | .set items => anyOversized items
  | .dict entries => anyEntryOversized entries
  | _ => false

def anyOversized : List Value → Bool
  | [] => false
  | item :: items => isOversized item || anyOversized items

def anyEntryOversized : List (Value × Value) → Bool
  | [] => false
  | (key, value) :: entries => isOversized key || isOversized value || anyEntryOversized entries
end

def display : Value → String
  | .text value => value
  | .date value => value.display
  | .moment value => value.display
  | value => literal value

/-- Whether a value counts as absent where an empty one does. -/
def isEmpty : Value → Bool
  | .null => true
  | .bool value => !value
  | .int value => value == 0
  | .float value => value == 0
  | .text value => value.isEmpty
  | .bytes value => value.isEmpty
  | .tuple items | .list items | .set items => items.isEmpty
  | .dict entries => entries.isEmpty
  | .date _ | .moment _ | .cycle _ => false

end Value
end TermStyle
