import TermStyle.Text.Surrogate
import TermStyle.Yaml.Cursor

/-!
The texts of scalars. Plain and quoted ones are folded: a line break becomes a blank, and further ones stay
as they are. Literal blocks keep their lines; folded blocks join those that start with no blank. -/

namespace TermStyle.Yaml.Scalar
open Scan

/-- What a first break and those behind it are folded into. -/
def folded (first : Char) (breaks : List Char) : List Char :=
  if first != '\n' then first :: breaks else if breaks.isEmpty then [' '] else breaks

/-! ## Plain scalars -/

/-- The text of a plain scalar, and whether a key may start behind it because a line did. -/
structure Plain where
  text : List Char
  lineStart : Bool

def run (inFlow : Bool) : List Char → List Char
  | [] => []
  | c :: rest =>
    let next := rest.head?.getD '\x00'
    if endsWord c then []
    else if c == ':' && (endsWord next || (inFlow && ",[]{}".toList.contains next)) then []
    else if inFlow && ",?[]{}".toList.contains c then []
    else c :: run inFlow rest

def plainRun (inFlow : Bool) : Scan (List Char) := do
  let run := run inFlow (← get).rest
  if (← peekAt run.length) == ':' then demand (run.length + 2)
  advance run.length
  return run

/-- Breaks and blanks at the heads of the lines behind a break. Nothing is left where a document ends. -/
def plainBreaks : Nat → List Char → Scan (Option (List Char))
  | 0, breaks => return some breaks
  | fuel + 1, breaks => do
    if ← separates then return none
    skipSpaces
    match ← lineBreak with
    | some c => plainBreaks fuel (breaks ++ [c])
    | none => return some breaks

/-- The blanks behind a run, and whether a line started. Nothing is left if the scalar ends here. -/
def plainSpaces : Scan (Option (List Char) × Bool) := do
  let blanks ← takeWhile (· == ' ')
  match ← lineBreak with
  | some first =>
    let breaks ← plainBreaks (← fuel) []
    return (breaks.map (folded first), true)
  | none => return (if blanks.isEmpty then none else some blanks, false)

/-- Goes on with a plain scalar; `spaces` are kept only if another run follows. -/
def plainFrom (inFlow : Bool) (indent : Int) : Nat → List Char → Bool → Scan Plain
  | 0, _, lineStart => return ⟨[], lineStart⟩
  | fuel + 1, spaces, lineStart => do
    if (← peek) == '#' then return ⟨[], lineStart⟩
    let piece ← plainRun inFlow
    if piece.isEmpty then return ⟨[], lineStart⟩
    let image := spaces ++ piece
    match ← plainSpaces with
    | (none, lineStart) => return ⟨image, lineStart⟩
    | (some spaces, lineStart) =>
      if (← peek) == '#' || (!inFlow && (← column) < indent) then return ⟨image, lineStart⟩
      let later ← plainFrom inFlow indent fuel spaces lineStart
      return { later with text := image ++ later.text }

def plain (inFlow : Bool) (indent : Int) : Scan Plain := do plainFrom inFlow indent (← fuel) [] false

/-! ## Quoted scalars -/

def escapes : List (Char × Nat) := [
  ('0', 0), ('a', 7), ('b', 8), ('t', 9), ('\t', 9), ('n', 10), ('v', 11), ('f', 12), ('r', 13), ('e', 27),
  (' ', 32), ('"', 34), ('\\', 92), ('/', 47), ('N', 0x85), ('_', 0xa0), ('L', 0x2028), ('P', 0x2029)]

def numberedEscapes : List (Char × Nat) := [('x', 2), ('u', 4), ('U', 8)]

def isHexDigit (c : Char) : Bool := (Color.hexValue? c).isSome

def hexNumber (digits : List Char) : Nat :=
  Numeral.ofDigits 16 (digits.filterMap fun c => (Color.hexValue? c).map Fin.val)

def hexDigits (width : Nat) : Scan (List Char) := do
  let digits := (← get).rest.take width
  if !digits.all isHexDigit then throw .document
  demand width
  if digits.length < width then throw .document
  return digits

def character (code : Nat) : Except Fault (List Char) :=
  if 0x7fffffff < code then .error .codePointSize
  else if 0x10ffff < code then .error .codePoint
  else if Text.Surrogate.isCode code then .ok (Text.Surrogate.encode code)
  else .ok [.ofNat code]

/-- Line breaks at the heads of lines in a quoted scalar, up to the next text. -/
def quotedBreaks : Nat → List Char → Scan (List Char)
  | 0, breaks => return breaks
  | fuel + 1, breaks => do
    if ← separates then throw .document
    skipWhile fun c => c == ' ' || c == '\t'
    match ← lineBreak with
    | some c => quotedBreaks fuel (breaks ++ [c])
    | none => return breaks

def quotedSpaces : Scan (List Char) := do
  let blanks ← takeWhile fun c => c == ' ' || c == '\t'
  if (← peek) == '\x00' then throw .document
  match ← lineBreak with
  | some first => return folded first (← quotedBreaks (← fuel) [])
  | none => return blanks

def escape : Scan (List Char) := do
  advance 1
  let c ← peek
  match escapes.lookup c, numberedEscapes.lookup c with
  | some code, _ =>
    advance 1
    return [.ofNat code]
  | none, some width =>
    advance 1
    let image ← character (hexNumber (← hexDigits width))
    advance width
    return image
  | none, none =>
    match ← lineBreak with
    | some _ => quotedBreaks (← fuel) []
    | none => throw .document

def isQuotedText (c : Char) : Bool := !(c == '\'' || c == '"' || c == '\\' || endsWord c)

/-- Text up to a blank or the closing quote. -/
def quotedText (double : Bool) : Nat → Scan (List Char)
  | 0 => return []
  | fuel + 1 => do
    let text ← takeWhile isQuotedText
    let c ← peek
    let isTwin ← if !double && c == '\'' then pure ((← peekAt 1) == '\'') else pure false
    if isTwin then
      advance 2
      return text ++ '\'' :: (← quotedText double fuel)
    else if (double && c == '\'') || (!double && (c == '"' || c == '\\')) then
      advance 1
      return text ++ c :: (← quotedText double fuel)
    else if double && c == '\\' then return text ++ (← escape) ++ (← quotedText double fuel)
    else return text

def quotedFrom (double : Bool) : Nat → Scan (List Char)
  | 0 => throw .document
  | fuel + 1 => do
    let text ← quotedText double (← Scan.fuel)
    if (← peek) == (if double then '"' else '\'') then
      advance 1
      return text
    return text ++ (← quotedSpaces) ++ (← quotedFrom double fuel)

def quoted (double : Bool) : Scan (List Char) := do
  advance 1
  quotedFrom double (← fuel)

/-! ## Blocks -/

/-- What is done with the line breaks at the end of a block. -/
inductive Chomping
  | clip
  | strip
  | keep
  deriving DecidableEq, Repr

def chomping? : Char → Option Chomping
  | '+' => some .keep
  | '-' => some .strip
  | _ => none

def chomping : Scan (Option Chomping) := do
  let found := chomping? (← peek)
  if found.isSome then advance 1
  return found

def increment : Scan (Option Nat) := do
  let c ← peek
  if !Text.Digit.isAsciiDigit c then return none
  if c == '0' then throw .document
  advance 1
  return some (c.toNat - 48)

/-- The two indicators of a block header, in either order. -/
def header : Scan (Chomping × Option Nat) := do
  let first ← chomping
  let step ← increment
  let last ← if first.isNone && step.isSome then chomping else pure none
  if !endsField (← peek) then throw .document
  return ((first.or last).getD .clip, step)

/-- Empty lines at the head of a block, and the deepest column reached by their blanks. -/
def blockIndentation : Nat → List Char → Nat → Scan (List Char × Nat)
  | 0, breaks, deepest => return (breaks, deepest)
  | fuel + 1, breaks, deepest => do
    skipSpaces
    let deepest := max deepest (← column)
    match ← lineBreak with
    | some c => blockIndentation fuel (breaks ++ [c]) deepest
    | none => return (breaks, deepest)

def skipIndent (indent : Nat) : Scan Unit := do
  let cursor ← get
  advance ((cursor.rest.take (indent - cursor.column)).takeWhile (· == ' ')).length

def blockBreaks (indent : Nat) : Nat → List Char → Scan (List Char)
  | 0, breaks => return breaks
  | fuel + 1, breaks => do
    skipIndent indent
    match ← lineBreak with
    | some c => blockBreaks indent fuel (breaks ++ [c])
    | none => return breaks

def isBlankStart (c : Char) : Bool := c == ' ' || c == '\t'

def isBlockLine (indent : Nat) : Scan Bool := do return (← column) == indent && (← peek) != '\x00'

/-- The lines of a block, with the break behind the last one and the breaks after that. -/
def blockLines (folds : Bool) (indent : Nat) : Nat → List Char → Scan (List Char × List Char × List Char)
  | 0, breaks => return ([], [], breaks)
  | fuel + 1, breaks => do
    if !(← isBlockLine indent) then return ([], [], breaks)
    let blankStart := isBlankStart (← peek)
    let line := breaks ++ (← takeWhile (!endsLine ·))
    let ending := (← lineBreak).toList
    let breaks ← blockBreaks indent (← Scan.fuel) []
    if !(← isBlockLine indent) then return (line, ending, breaks)
    let joins := folds && ending == ['\n'] && !blankStart && !isBlankStart (← peek)
    let joint := if joins then (if breaks.isEmpty then [' '] else []) else ending
    let (later, rest) ← blockLines folds indent fuel breaks
    return (line ++ joint ++ later, rest)

def block (folds : Bool) (indent : Int) : Scan (List Char) := do
  advance 1
  let (chomping, step) ← header
  ignoredLine
  let least := max 1 (indent + 1).toNat
  let (depth, breaks) ← match step with
    | none => do
      let (breaks, deepest) ← blockIndentation (← fuel) [] 0
      pure (max least deepest, breaks)
    | some step => do
      let depth := least + step - 1
      pure (depth, ← blockBreaks depth (← fuel) [])
  let (text, ending, breaks) ← blockLines folds depth (← fuel) breaks
  return text ++ match chomping with
    | .strip => []
    | .clip => ending
    | .keep => ending ++ breaks

end TermStyle.Yaml.Scalar
