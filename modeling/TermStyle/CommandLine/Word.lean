import TermStyle.CommandLine.Grammar
import TermStyle.Text.Digit

/-!
What each word of a command line is, seen from a grammar: an argument, the separator that ends the flags,
a flag of the grammar, or something that only looks like one. A long flag may be shortened as long as it
is the only one that starts so. -/

namespace TermStyle.CommandLine
open Text

/-- A flag may have a text attached in its own word, behind an equals sign or right behind its letter. -/
inductive Role
  | argument
  | separator
  | unknown
  | flag (flag : Flag) (name : String) (attached : Option String)

structure Word where
  text : String
  role : Role

namespace Word

def separatorText : String := "--"

def atEquals (text : String) : String × Option String :=
  let (front, rest) := text.toList.span (· != '=')
  (.ofList front, if rest.isEmpty then none else some (.ofList rest.tail))

def isDigits (text : List Char) : Bool := !text.isEmpty && text.all Digit.isDigit

/-- A minus sign with digits, of which the fraction may be all; one line feed may follow. -/
def isNegative (text : String) : Bool :=
  match text.toList with
  | '-' :: body =>
    let body := if body.getLast? == some '\n' then body.dropLast else body
    isDigits body ||
      match body.dropWhile Digit.isDigit with
      | '.' :: fraction => isDigits fraction
      | _ => false
  | _ => false

structure Candidate where
  flag : Flag
  name : String
  attached : Option String

def named (flags : List Flag) : List (Flag × String) := flags.flatMap fun flag => flag.names.map fun name => (flag, name)

/-- The flags that a shortened word may stand for. Behind one dash a letter may be followed by its value. -/
def candidates (flags : List Flag) (text : String) : List Candidate :=
  if text.startsWith separatorText then
    let (front, value) := atEquals text
    (named flags).filterMap fun (flag, name) =>
      if name.startsWith front then some ⟨flag, name, value⟩ else none
  else
    let letter := String.ofList (text.toList.take 2)
    (named flags).filterMap fun (flag, name) =>
      if name == letter then some ⟨flag, name, some (.ofList (text.toList.drop 2))⟩
      else if name.startsWith text then some ⟨flag, name, none⟩
      else none

def ambiguous (text : String) (found : List Candidate) : String :=
  "ambiguous option: " ++ text ++ " could match " ++ ", ".intercalate (found.map (·.name))

/-- What a word with a dash in front is if it is no flag by its full name. -/
def guessed (flags : List Flag) (text : String) : Except String Role :=
  match candidates flags text with
  | [one] => .ok (.flag one.flag one.name one.attached)
  | [] => .ok (if isNegative text || text.contains ' ' then .argument else .unknown)
  | found => .error (ambiguous text found)

def roleOf (flags : List Flag) (text : String) : Except String Role :=
  if !text.startsWith "-" then .ok .argument
  else match Grammar.find? flags text with
    | some flag => .ok (.flag flag text none)
    | none =>
      if text.length == 1 then .ok .argument
      else
        let (front, value) := atEquals text
        match value, Grammar.find? flags front with
        | some value, some flag => .ok (.flag flag front (some value))
        | _, _ => guessed flags text

/-- The words of a command line. Behind the separator all are arguments. -/
def ofTexts (flags : List Flag) : List String → Except String (List Word)
  | [] => .ok []
  | text :: rest =>
    if text = separatorText then .ok (⟨text, .separator⟩ :: rest.map (⟨·, .argument⟩))
    else do
      let role ← roleOf flags text
      return ⟨text, role⟩ :: (← ofTexts flags rest)

end Word
end TermStyle.CommandLine
