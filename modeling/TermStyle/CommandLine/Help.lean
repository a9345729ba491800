import TermStyle.CommandLine.Section
import TermStyle.CommandLine.Usage

/-!
The help of a command: its usage, what it is for, and a table of what it accepts. Explanations start in
one column; what is too long to stand before it has a line of its own. -/

namespace TermStyle.CommandLine.Help
open Text

structure Row where
  indent : Nat
  head : String
  help : Option String

def defaultText (value : Value) : String := " (default: " ++ value.display ++ ")"

/-- An explanation in a layout; a default is only shown by a rich one. -/
def explained (layout : Layout) (help : Option String) (default : Option Value) : Option String :=
  help.map fun text =>
    match layout.tier, default with
    | some _, some value => text ++ defaultText value
    | _, _ => text

def flagRow (layout : Layout) (flag : Flag) : Row where
  indent := Section.standardIndent
  head := ", ".intercalate (flag.names.map flag.marked)
  help := explained layout flag.help (if flag.effect = .help then none else some flag.default)

def operandRow (layout : Layout) (operand : Operand) : Row where
  indent := Section.standardIndent
  head := operand.name
  help := explained layout (some operand.help) (if operand.arity = .one then none else some operand.default)

def commandRow (branch : String × Tree) : Row where
  indent := 2 * Section.standardIndent
  head := branch.1
  help := some branch.2.grammar.summary

def menuRows (menu : Option Menu) (branches : List (String × Tree)) : List Row :=
  match menu with
  | some menu => ⟨Section.standardIndent, menu.mark, menu.help⟩ :: branches.map commandRow
  | none => []

/-- The column of the explanations: two beyond the longest head, but not beyond that of the layout. -/
def column (layout : Layout) (rows : List Row) : Int :=
  let longest := (rows.map (·.head.length)).foldl max 0
  min (longest + Section.standardIndent + 2) layout.column

def least : Int := 11

/-- The lines of an explanation. A plain layout fills lines with its words; a rich one leaves it as it is. -/
def explanation (layout : Layout) (column : Int) (text : String) : List String :=
  match layout.tier with
  | some _ => [text]
  | none => Lines.fill (max (layout.width - column) least) ((Blank.fields Blank.isAsciiBlank text.toList).map .ofList)

def rowText (layout : Layout) (column : Int) (row : Row) : String :=
  let front := Usage.spaces row.indent ++ row.head
  let room := column - row.indent - 2
  match (row.help.map (explanation layout column)).getD [] with
  | [] => front ++ "\n"
  | first :: rest =>
    let below := rest.map (Usage.spaces column.toNat ++ · ++ "\n")
    let start :=
      if (row.head.length : Int) ≤ room then front ++ Usage.spaces (room - row.head.length).toNat ++ "  "
      else front ++ "\n" ++ Usage.spaces column.toNat
    start ++ first ++ "\n" ++ String.join below

def table (layout : Layout) (column : Int) (title : String) (rows : List Row) : String :=
  let heading := match layout.tier with
    | some tier => Section.heading tier (.letters title)
    | none => .letters title
  Section.render (some heading) (String.join (rows.map (rowText layout column)))

def render (tree : Tree) : String :=
  let grammar := tree.grammar
  let layout := grammar.layout
  let positional := grammar.operands.map (operandRow layout) ++ menuRows tree.menu tree.branches
  let flags := grammar.flags.map (flagRow layout)
  let column := column layout (positional ++ flags)
  let description := (grammar.description.map (Section.paragraph 0)).getD ""
  Section.tidied (Usage.render grammar tree.menu ++ "\n\n" ++ description ++
    table layout column "positional arguments" positional ++ table layout column "options" flags)

end TermStyle.CommandLine.Help
