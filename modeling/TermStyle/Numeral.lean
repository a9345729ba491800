import TermStyle.Text.Blank
import TermStyle.Text.Digit
import TermStyle.Text.Quoted

/-!
Whole numbers as people type them: blanks around, an optional sign, digits of any script, and single
underscores between digits. A decimal numeral has a length limit; one in a base that is a power of two
has none. -/

namespace TermStyle.Numeral
open Text

inductive Error
  | malformed (base : Nat) (text : String)
  | tooLong (digits : Nat)
  deriving DecidableEq, Repr

/-- The most digits a decimal numeral may have, leading zeros included. -/
def digitLimit : Nat := 4300

def Error.message : Error → String
  | .malformed base text =>
    s!"invalid literal for int() with base {base}: " ++ String.ofList ((Quoted.encode text.toList).take 200)
  | .tooLong digits =>
    s!"Exceeds the limit ({digitLimit} digits) for integer string conversion: value has {digits} digits; use sys.set_int_max_str_digits() to increase the limit"

/-- The blanks that may stand around a numeral. Of the basic Latin ones the separator controls may not. -/
def isPadding (c : Char) : Bool :=
  if c.toNat < 0x7f then Blank.isAsciiBlank c else Blank.isBlank c

/-- The value of a digit in a base up to thirty-six: decimal digits of every script, then Latin letters. -/
def digit? (base : Nat) (c : Char) : Option Nat :=
  let value? := match Digit.value? c with
    | some value => some value
    | none =>
      if 'a' ≤ c && c ≤ 'z' then some (c.toNat - 87)
      else if 'A' ≤ c && c ≤ 'Z' then some (c.toNat - 55)
      else none
  value?.filter (· < base)

def isDigitOf (base : Nat) (c : Char) : Bool := (digit? base c).isSome

def ofDigits (base : Nat) (digits : List Nat) : Nat := digits.foldl (fun value digit => base * value + digit) 0

def separated : List Char → Bool
  | [] => true
  | ['_'] => false
  | '_' :: '_' :: _ => false
  | _ :: rest => separated rest

def signed : List Char → Bool × List Char
  | '-' :: rest => (true, rest)
  | '+' :: rest => (false, rest)
  | rest => (false, rest)

def isMark (base : Nat) (mark : Char) : Bool :=
  match base with
  | 2 => mark == 'b' || mark == 'B'
  | 8 => mark == 'o' || mark == 'O'
  | 16 => mark == 'x' || mark == 'X'
  | _ => false

/-- Drops the mark of the base and one underscore after it. -/
def unmarked (base : Nat) : List Char → List Char
  | '0' :: mark :: rest =>
    if isMark base mark then (match rest with | '_' :: digits => digits | digits => digits)
    else '0' :: mark :: rest
  | rest => rest

def isLimited (base : Nat) : Bool := !(base == 2 || base == 8 || base == 16)

def readIn (base : Nat) (text : String) : Except Error Int :=
  let (negative, body) := signed (text.toList.dropWhile isPadding)
  let body := unmarked base body
  let run := body.takeWhile fun c => isDigitOf base c || c == '_'
  let rest := body.dropWhile fun c => isDigitOf base c || c == '_'
  let digits := run.filterMap (digit? base)
  if run.isEmpty || run.head? == some '_' || !separated run then .error (.malformed base text)
  else if isLimited base && digitLimit < digits.length then .error (.tooLong digits.length)
  else if !rest.all isPadding then .error (.malformed base text)
  else
    let magnitude := ofDigits base digits
    .ok (if negative then -(magnitude : Int) else magnitude)

def read (text : String) : Except Error Int := readIn 10 text

end TermStyle.Numeral
