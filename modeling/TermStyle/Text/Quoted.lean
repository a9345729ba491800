import TermStyle.Text.Printable
import TermStyle.Text.Surrogate

/-!
Quoted text, the form in which diagnostics show a string: between single quotes, or double quotes
when that avoids escaping, with everything that is not shown as it is written as an escape. -/

namespace TermStyle.Text.Quoted

/-- The last `width` hexadecimal digits of a number, small letters, high digit first. -/
def hexDigits : Nat → Nat → List Char
  | 0, _ => []
  | width + 1, n => hexDigits width (n / 16) ++ [Nat.digitChar (n % 16)]

def numbered (c : Char) : List Char :=
  let n := c.toNat
  if n ≤ 0xff then '\\' :: 'x' :: hexDigits 2 n
  else if n ≤ 0xffff then '\\' :: 'u' :: hexDigits 4 n
  else '\\' :: 'U' :: hexDigits 8 n

def escape (quote c : Char) : List Char :=
  if c == quote || c == '\\' then ['\\', c]
  else if c == '\n' then ['\\', 'n']
  else if c == '\r' then ['\\', 'r']
  else if c == '\t' then ['\\', 't']
  else if Printable.isPrintable c then [c]
  else numbered c

def quoteFor (text : List Char) : Char :=
  if text.contains '\'' && !text.contains '"' then '"' else '\''

/-- The inside of a quoted text. A surrogate has an escape of its own. -/
def escaped (quote : Char) : List Char → List Char
  | a :: b :: rest =>
    match Surrogate.decode? a b with
    | some code => '\\' :: 'u' :: hexDigits 4 code ++ escaped quote rest
    | none => escape quote a ++ escaped quote (b :: rest)
  | [c] => escape quote c
  | [] => []

def encode (text : List Char) : List Char :=
  let quote := quoteFor text
  quote :: escaped quote text ++ [quote]

def quoted (text : String) : String := .ofList (encode text.toList)

end TermStyle.Text.Quoted
