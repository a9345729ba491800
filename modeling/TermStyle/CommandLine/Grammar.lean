import TermStyle.Emphasis
import TermStyle.Text.CaseMap

/-!
What a command line may say: flags, which start with a dash, operands, which do not, and commands with
grammars of their own. -/

namespace TermStyle.CommandLine
open Text

/-- What a value may be, and how it is read. -/
inductive Kind
  | text
  | number (choices : List Int)
  | word (choices : List String)
  /-- Choices that are written in any letter case. -/
  | capitals (choices : List String)
  deriving DecidableEq, Repr

namespace Kind

def notChoice (shown : String) (choices : List String) : String :=
  "invalid choice: " ++ shown ++ " (choose from " ++ ", ".intercalate choices ++ ")"

def chosen (choices : List String) (text : String) : Except String Value :=
  if choices.contains text then .ok (.text text)
  else .error (notChoice (Quoted.quoted text) (choices.map Quoted.quoted))

def read (kind : Kind) (text : String) : Except String Value :=
  match kind with
  | .text => .ok (.text text)
  | .word choices => chosen choices text
  | .capitals choices => chosen choices (CaseMap.upper text)
  | .number choices =>
    match Numeral.read text with
    | .error _ => .error ("invalid int value: " ++ Quoted.quoted text)
    | .ok found =>
      if choices.contains found then .ok (.int found)
      else .error (notChoice (toString found) (choices.map toString))

end Kind

/-- What a flag does: it shows the help, is noted, or takes a value, which help texts show as a mark. -/
inductive Effect
  | help
  | switch
  | store (kind : Kind) (mark : String)
  deriving DecidableEq, Repr

structure Flag where
  names : List String
  field : String
  effect : Effect
  default : Value
  help : Option String

inductive Arity
  | one
  | optional
  | many
  deriving DecidableEq, Repr

structure Operand where
  name : String
  arity : Arity
  default : Value
  help : String

structure Menu where
  field : String
  mark : String
  help : Option String

/-- How help is laid out. A rich layout styles its headings for a tier, shows defaults and keeps texts as they are written. -/
structure Layout where
  width : Int
  /-- The last column at which explanations may start. -/
  column : Int
  tier : Option Tier

namespace Layout

def rich (tier : Tier) : Layout := ⟨100, 30, some tier⟩

def plain (columns : Int) : Layout := ⟨columns - 2, min 24 (max (columns - 22) 4), none⟩

end Layout

structure Grammar where
  program : String
  layout : Layout
  /-- What is said of the command in the help of the one above it. -/
  summary : String
  description : Option String
  flags : List Flag
  operands : List Operand

/-- A grammar with the commands that may follow, if there is a menu of them. -/
inductive Tree
  | node (grammar : Grammar) (menu : Option Menu) (branches : List (String × Tree))

namespace Flag

def isShort (name : String) : Bool := name.length == 2

def title (flag : Flag) : String := "/".intercalate flag.names

def mark? (flag : Flag) : Option String :=
  match flag.effect with
  | .store _ mark => some mark
  | _ => none

def marked (flag : Flag) (name : String) : String := name ++ ((flag.mark?.map (" " ++ ·)).getD "")

end Flag

def complaint (title message : String) : String := "argument " ++ title ++ ": " ++ message

namespace Grammar

def find? (flags : List Flag) (name : String) : Option Flag := flags.find? (·.names.contains name)

def defaults (grammar : Grammar) : List (String × Value) :=
  grammar.flags.filterMap (fun flag => if flag.effect = .help then none else some (flag.field, flag.default)) ++
    grammar.operands.map fun operand => (operand.name, operand.default)

end Grammar

namespace Tree

def grammar : Tree → Grammar
  | .node grammar _ _ => grammar

def menu : Tree → Option Menu
  | .node _ menu _ => menu

def branches : Tree → List (String × Tree)
  | .node _ _ branches => branches

end Tree
end TermStyle.CommandLine
