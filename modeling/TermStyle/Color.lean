import TermStyle.Text.Digit
import TermStyle.Text.Quoted

/-!
Twenty-four bit colours and their hexadecimal names: six digits, with or without a number sign. A name is
read back from what it writes, in either letter case. -/

namespace TermStyle
open Text

structure Color where
  red : Fin 256
  green : Fin 256
  blue : Fin 256
  deriving DecidableEq, Repr

namespace Color

inductive HexError
  | length (text : String)
  | digit (text : String)
  deriving DecidableEq, Repr

def HexError.message : HexError → String
  | .length text => "Expected six hex digits: " ++ Quoted.quoted text
  | .digit text => "Invalid hex color: " ++ Quoted.quoted text

def hexValue? (c : Char) : Option (Fin 16) :=
  if '0' ≤ c && c ≤ '9' then some (.ofNat 16 (c.toNat - 48))
  else if 'a' ≤ c && c ≤ 'f' then some (.ofNat 16 (c.toNat - 87))
  else if 'A' ≤ c && c ≤ 'F' then some (.ofNat 16 (c.toNat - 55))
  else none

def channel (high low : Fin 16) : Fin 256 := ⟨16 * high + low, by omega⟩

def unmarked : List Char → List Char
  | '#' :: digits => digits
  | digits => digits

def ofHex (text : String) : Except HexError Color :=
  match unmarked text.toList with
  | [a, b, c, d, e, f] =>
    match hexValue? a, hexValue? b, hexValue? c, hexValue? d, hexValue? e, hexValue? f with
    | some a, some b, some c, some d, some e, some f => .ok ⟨channel a b, channel c d, channel e f⟩
    | _, _, _, _, _, _ => .error (.digit text)
  | _ => .error (.length text)

end Color
end TermStyle
