import TermStyle.CommandLine.Grammar
import TermStyle.Text.Lines

/-!
Usage lines: the name of the command with all it accepts. What does not go on one line is spread over
several, flags and operands apart, behind the name or, if that is long, below it. -/

namespace TermStyle.CommandLine.Usage
open Text

def opening : String := "usage: "

def flagPart (flag : Flag) : String := "[" ++ flag.marked (flag.names.head?.getD "") ++ "]"

def operandPart (operand : Operand) : String :=
  match operand.arity with
  | .one => operand.name
  | .optional => "[" ++ operand.name ++ "]"
  | .many => "[" ++ operand.name ++ " ...]"

/-- A menu is followed by whatever the command takes. -/
def menuParts (menu : Option Menu) : List String :=
  match menu with
  | some menu => [menu.mark, "..."]
  | none => []

def spaces (count : Nat) : String := .ofList (List.replicate count ' ')

def spread (width : Int) (program : String) (flags others : List String) : List String :=
  let start := opening.length + program.length
  if 4 * (start : Int) ≤ 3 * width then
    let room := width - opening.length
    let rest := width - (start + 1)
    let lines :=
      if flags.isEmpty then Lines.fillAfter room rest program others
      else Lines.fillAfter room rest program flags ++ Lines.fill rest others
    lines.take 1 ++ (lines.drop 1).map (spaces (start + 1) ++ ·)
  else
    let rest := width - opening.length
    let together := Lines.fill rest (flags ++ others)
    let lines := if 1 < together.length then Lines.fill rest flags ++ Lines.fill rest others else together
    program :: lines.map (spaces opening.length ++ ·)

def render (grammar : Grammar) (menu : Option Menu) : String :=
  let flags := grammar.flags.map flagPart
  let others := grammar.operands.map operandPart ++ menuParts menu
  let line := " ".intercalate (grammar.program :: flags ++ others)
  let width := grammar.layout.width
  if (opening.length + line.length : Int) ≤ width then opening ++ line
  else opening ++ "\n".intercalate (spread width grammar.program flags others)

end TermStyle.CommandLine.Usage
