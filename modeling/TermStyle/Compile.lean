import TermStyle.Attribute
import TermStyle.Directive
import TermStyle.Log.Record

/-!
Compiling a text of directives for a tier. Each token gives at most one sequence. What is no directive,
or names no attribute, gives none and leaves a debug record; what the tier cannot show, or has unfit
arguments, gives none silently. -/

namespace TermStyle.Compile
open Text Log

def logger : String := "huecode.compiler"

inductive Reading
  | malformed
  | unknown (name : String)
  | known (spec : Attribute) (args : List String)
  deriving DecidableEq, Repr

def read (token : String) : Reading :=
  match Directive.parse? token with
  | none => .malformed
  | some directive =>
    match Attribute.lookup? directive.name with
    | none => .unknown directive.name
    | some spec => .known spec directive.args

/-- The records a token leaves, at every tier. -/
def remarks (token : String) : List Record :=
  match read token with
  | .malformed => [.debug logger ("Ignoring malformed directive " ++ Quoted.quoted token)]
  | .unknown name => [.debug logger ("Ignoring unknown attribute " ++ Quoted.quoted name)]
  | .known _ _ => []

def sequence? (tier : Int) (token : String) : Except Numeral.Error (Option Sequence) :=
  match read token with
  | .known spec args => if tier < spec.minTier then .ok none else spec.sequence? args
  | _ => .ok none

/-- Goes through the tokens up to the first that fails. -/
def tokens (tier : Int) : List String → Noted (Except Numeral.Error (List Sequence))
  | [] => ⟨.ok [], []⟩
  | token :: rest =>
    match sequence? tier token with
    | .error error => ⟨.error error, remarks token⟩
    | .ok sequence =>
      let after := tokens tier rest
      ⟨after.value.map (sequence.toList ++ ·), remarks token ++ after.records⟩

def sequences (directives : String) (tier : Int) : Noted (Except Numeral.Error (List Sequence)) :=
  tokens tier (Blank.words directives)

def text (directives : String) (tier : Int) : Noted (Except Numeral.Error String) :=
  let result := sequences directives tier
  ⟨result.value.map Sequence.renderAll, result.records⟩

end TermStyle.Compile
