import TermStyle.Emphasis
import TermStyle.Text.Lines
import TermStyle.Text.Percent

/-!
Help texts as sections: a heading with a colon, and an indented body. Between sections there is one blank
line, whatever their bodies end with. -/

namespace TermStyle.CommandLine

/-- A heading or a text as it is given: in letters, or as the mark for what is to be left out. The mark is
known by what it is, not by its letters. -/
inductive Wording
  | letters (text : String)
  | suppressed
  deriving DecidableEq, Repr

/-- The letters of a wording. The mark has letters too, which show where it is put into another text. -/
def Wording.text : Wording → String
  | .letters text => text
  | .suppressed => "==SUPPRESS=="

namespace Section
open Text

def headline : Option Wording → String
  | some (.letters text) => text ++ ":\n"
  | some .suppressed | none => ""

/-- A section; without a body there is none, whatever its heading. -/
def render (heading : Option Wording) (body : String) : String :=
  if body.isEmpty then "" else "\n" ++ headline heading ++ body ++ "\n"

/-- Keeps at most two line feeds in a row; `run` says how many came just before. -/
def thinned (run : Nat) : List Char → List Char
  | [] => []
  | '\n' :: rest => if run < 2 then '\n' :: thinned (run + 1) rest else thinned run rest
  | c :: rest => c :: thinned 0 rest

/-- The final form of a help text, with one line feed at its end and none at its start. -/
def tidied (text : String) : String :=
  if text.isEmpty then "" else .ofList (Blank.stripBy (· == '\n') (thinned 0 text.toList) ++ ['\n'])

def paragraph (indent : Nat) (text : String) : String := Lines.indented indent text ++ "\n\n"

def placeholder : List Char := "%(prog)".toList

def asksForName : List Char → Bool
  | [] => false
  | c :: rest => placeholder.isPrefixOf (c :: rest) || asksForName rest

/-- Puts in the name of the program where the text asks for it. -/
def named (program text : String) : Except Percent.Error String :=
  if asksForName text.toList then
    let fields := [("prog", Value.text program)]
    Percent.format text
      (.dict (fun name => fields.lookup name) [.dict (fields.map fun (name, value) => (.text name, value))])
  else .ok text

/-- A heading for a tier. An empty one is not styled, and stays what it was, as does every heading where
the tier shows nothing; styling makes new letters of it. -/
def heading (tier : Tier) (given : Wording) : Wording :=
  if given.text.isEmpty || (Emphasis.front Emphasis.headerDirectives tier).isEmpty then given
  else .letters (Emphasis.header given.text tier)

def standardIndent : Nat := 2

/-- The body of a section with one text, which is a paragraph. -/
def body (program : String) : Option Wording → Except Percent.Error String
  | some (.letters text) => (named program text).map (paragraph standardIndent)
  | some .suppressed | none => .ok ""

def help (tier : Tier) (program : String) (title text : Option Wording) : Except Percent.Error String := do
  return tidied (render (title.map (heading tier)) (← body program text))

end Section
end TermStyle.CommandLine
