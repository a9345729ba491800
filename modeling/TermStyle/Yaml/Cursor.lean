import TermStyle.Yaml.Source

/-!
A place in a document: the text that is still to come, and where in the document it starts. Past the end
there are only NUL characters, which no document holds. Where the text breaks off instead, a scan fails as
soon as it needs a character from there on; to move, it needs the character behind as well. -/

namespace TermStyle.Yaml

def isBreak (c : Char) : Bool := c == '\n' || c.toNat == 0x85 || c.toNat == 0x2028 || c.toNat == 0x2029

def endsLine (c : Char) : Bool := c == '\x00' || isBreak c

/-- Whether a word ends here, tabs being part of words. -/
def endsField (c : Char) : Bool := c == ' ' || endsLine c

def endsWord (c : Char) : Bool := c == '\t' || endsField c

def byteOrderMark : Char := .ofNat 0xfeff

structure Cursor where
  rest : List Char
  /-- Why the text breaks off, if it does. -/
  lack : Option Fault
  /-- How many characters the whole text has. -/
  size : Nat
  index : Nat
  line : Nat
  column : Nat

namespace Cursor

def start (source : Source) : Cursor := ⟨source.text, source.lack, source.text.length, 0, 0, 0⟩

def charAt (cursor : Cursor) (distance : Nat) : Char := (cursor.rest.drop distance).head?.getD '\x00'

def step (cursor : Cursor) : Cursor :=
  match cursor.rest with
  | [] => cursor
  | c :: rest =>
    let moved := { cursor with rest, index := cursor.index + 1 }
    if isBreak c then { moved with line := cursor.line + 1, column := 0 }
    else if c == byteOrderMark then moved
    else { moved with column := cursor.column + 1 }

def forward : Nat → Cursor → Cursor
  | 0, cursor => cursor
  | count + 1, cursor => forward count cursor.step

end Cursor

abbrev Scan := StateT Cursor (Except Fault)

namespace Scan

/-- Fails where fewer characters than needed are there and the text breaks off behind them. -/
def demand (count : Nat) : Scan Unit := do
  let cursor ← get
  match cursor.lack with
  | some fault => if (cursor.rest.drop (count - 1)).isEmpty then throw fault
  | none => return

def peekAt (distance : Nat) : Scan Char := do
  demand (distance + 1)
  return (← get).charAt distance

def peek : Scan Char := peekAt 0

def advance (count : Nat) : Scan Unit := do
  demand (count + 1)
  modify (Cursor.forward count)

def column : Scan Nat := return (← get).column

/-- More than any loop over the text needs. -/
def fuel : Scan Nat := return (← get).size + 1

def takeWhile (belongs : Char → Bool) : Scan (List Char) := do
  let run := (← get).rest.takeWhile belongs
  advance run.length
  return run

def skipWhile (belongs : Char → Bool) : Scan Unit := discard (takeWhile belongs)

def skipSpaces : Scan Unit := skipWhile (· == ' ')

/-- Takes a line break, if one is here. Most breaks are read as a line feed. -/
def lineBreak : Scan (Option Char) := do
  let c ← peek
  if !isBreak c then return none
  advance 1
  return some (if c.toNat < 0x100 then '\n' else c)

/-- Whether one of the given characters stands here three times, followed by the end of a word. -/
def marks (among : List Char) : Scan Bool := do
  demand 3
  match (← get).rest with
  | first :: second :: third :: _ =>
    if among.contains first && second == first && third == first then return endsWord (← peekAt 3)
    return false
  | _ => return false

/-- Whether a document starts or ends on this line. -/
def separates : Scan Bool := marks ['-', '.']

def skipComment : Scan Unit := do
  if (← peek) == '#' then skipWhile (!endsLine ·)

/-- Skips blanks and a comment behind something that has to be the last on its line. -/
def ignoredLine : Scan Unit := do
  skipSpaces
  skipComment
  if !endsLine (← peek) then throw .document
  discard lineBreak

end Scan
end TermStyle.Yaml
