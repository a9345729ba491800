import TermStyle.Numeral
import TermStyle.Sequence

/-!
The attributes a directive can name. A fixed attribute stands for one sequence and needs basic colours;
the others build theirs from arguments, and give none when the arguments do not fit. -/

namespace TermStyle
open Text

inductive Attribute
  | fixed (code : Nat)
  | palette (layer : Layer)
  | channels (layer : Layer)
  | hex (layer : Layer)
  deriving DecidableEq, Repr

namespace Attribute

def minTier : Attribute → Int
  | .fixed _ => 1
  | .palette _ => 2
  | .channels _ | .hex _ => 3

/-- The number a run of basic digits stands for, if it is a channel. Converting an overlong run fails. -/
def channel? (text : String) : Except Numeral.Error (Option (Fin 256)) :=
  let digits := text.toList
  if digits.isEmpty || !digits.all Digit.isAsciiDigit then .ok none
  else do
    let value ← Numeral.read text
    return if inside : value.toNat < 256 then some ⟨value.toNat, inside⟩ else none

def sequence? (spec : Attribute) (args : List String) : Except Numeral.Error (Option Sequence) :=
  match spec with
  | .fixed code => .ok (some (.code code))
  | .palette layer =>
    match args with
    | [arg] => do return (← channel? arg).map (.palette layer)
    | _ => .ok none
  | .channels layer =>
    match args with
    | [_, _, _] => do
      match ← args.mapM channel? with
      | [some red, some green, some blue] => return some (.direct layer ⟨red, green, blue⟩)
      | _ => return none
    | _ => .ok none
  | .hex layer =>
    match args with
    | [arg] => .ok ((Color.ofHex arg).toOption.map (.direct layer))
    | _ => .ok none

def styles : List (String × Attribute) := [
  ("reset", .fixed 0), ("bright", .fixed 1), ("bold", .fixed 1), ("dim", .fixed 2), ("dark", .fixed 2),
  ("italic", .fixed 3), ("underline", .fixed 4), ("underl", .fixed 4), ("blink", .fixed 5),
  ("inverse", .fixed 7), ("reverse", .fixed 7), ("hidden", .fixed 8), ("invisible", .fixed 8),
  ("strikethrough", .fixed 9), ("strike", .fixed 9)]

def colorNames : List String := ["black", "red", "green", "yellow", "blue", "magenta", "cyan", "white"]

def shades (color : String × Nat) : List (String × Attribute) :=
  let (name, number) := color
  [(name, .fixed (30 + number)), ("bg-" ++ name, .fixed (40 + number)),
    ("bright-" ++ name, .fixed (90 + number)), ("bg-bright-" ++ name, .fixed (100 + number))]

/-- Every attribute under its name, in the order in which they are listed. -/
def table : List (String × Attribute) :=
  styles ++ colorNames.zipIdx.flatMap shades ++ [
    ("default", .fixed 39), ("bg-default", .fixed 49),
    ("color256", .palette .foreground), ("bg-color256", .palette .background),
    ("rgb", .channels .foreground), ("bg-rgb", .channels .background),
    ("hex", .hex .foreground), ("bg-hex", .hex .background)]

def lookup? (name : String) : Option Attribute := table.lookup name

end Attribute
end TermStyle
