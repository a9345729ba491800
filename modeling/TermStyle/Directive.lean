import TermStyle.Text.Blank

/-!
Directives: an attribute name, and behind a colon the arguments, set apart by any run of commas and
semicolons. Reading undoes writing. -/

namespace TermStyle
open Text

structure Directive where
  name : String
  args : List String
  deriving DecidableEq, Repr

namespace Directive

def isSeparator (c : Char) : Bool := c == ',' || c == ';'

def cut : List Char → List Char × Option (List Char)
  | [] => ([], none)
  | c :: rest =>
    if c = ':' then ([], some rest)
    else
      let (name, args) := cut rest
      (c :: name, args)

/-- A token without a name, or with a second colon, is no directive. -/
def parse? (token : String) : Option Directive :=
  match cut token.toList with
  | ([], _) => none
  | (name, none) => some ⟨.ofList name, []⟩
  | (name, some rest) =>
    if ':' ∈ rest then none
    else some ⟨.ofList name, (Blank.fields isSeparator rest).map .ofList⟩

def text (directive : Directive) : String := directive.name ++ ":" ++ ",".intercalate directive.args

end Directive
end TermStyle
