import TermStyle.Numeral

/-!
Windows versions, and the banner that reports one: text that ends in a bracket with a label of any
language, a blank, three numbers, and perhaps more up to the closing bracket. -/

namespace TermStyle
open Text

structure Version where
  major : Int
  minor : Int
  build : Int
  deriving DecidableEq, Repr

namespace Version

def digits (text : List Char) : List Char × List Char := (text.takeWhile Digit.isDigit, text.dropWhile Digit.isDigit)

def skip? (expected : Char) : List Char → Option (List Char)
  | [] => none
  | c :: rest => if c = expected then some rest else none

def numbers? (text : List Char) : Option (List (List Char) × List Char) := do
  let (major, text) := digits text
  let (minor, text) := digits (← skip? '.' text)
  let (build, text) := digits (← skip? '.' text)
  if major.isEmpty || minor.isEmpty || build.isEmpty then none
  else return ([major, minor, build], text)

/-- Whether the only closing bracket is the last character. -/
def closes : List Char → Bool
  | [] => false
  | c :: rest => if c = ']' then rest.isEmpty else closes rest

/-- The numbers of a bracket, read from just behind its opening. -/
def bracket? (text : List Char) : Option (List (List Char)) := do
  let label := text.takeWhile (!Blank.isBlank ·)
  if label.isEmpty then none
  else
    let (found, rest) ← numbers? (← skip? ' ' (text.drop label.length))
    if closes rest then some found else none

/-- The numbers of the leftmost bracket that has the form of a version. -/
def find? : List Char → Option (List (List Char))
  | [] => none
  | c :: rest =>
    match if c = '[' then bracket? rest else none with
    | some found => some found
    | none => find? rest

def ofNumerals : List (List Char) → Except Numeral.Error (Option Version)
  | [major, minor, build] => do
    return some ⟨← Numeral.read (.ofList major), ← Numeral.read (.ofList minor), ← Numeral.read (.ofList build)⟩
  | _ => .ok none

def ofBanner (banner : String) : Except Numeral.Error (Option Version) :=
  match find? (Blank.stripBy Blank.isBlank banner.toList) with
  | some found => ofNumerals found
  | none => .ok none

end Version
end TermStyle
