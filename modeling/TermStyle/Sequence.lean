import TermStyle.Color

/-!
Control sequences that select a graphic rendition. A sequence is kept as what it selects and turned into
characters in one place, so no text from elsewhere can end up in one. -/

namespace TermStyle

inductive Layer
  | foreground
  | background
  deriving DecidableEq, Repr

def Layer.parameter : Layer → Nat
  | .foreground => 38
  | .background => 48

inductive Sequence
  | reset
  | code (parameter : Nat)
  | palette (layer : Layer) (index : Fin 256)
  | direct (layer : Layer) (color : Color)
  deriving DecidableEq, Repr

namespace Sequence

def parameters : Sequence → List Nat
  | .reset => []
  | .code parameter => [parameter]
  | .palette layer index => [layer.parameter, 5, index]
  | .direct layer color => [layer.parameter, 2, color.red, color.green, color.blue]

def introducer : String := "\x1b["

def render (sequence : Sequence) : String :=
  introducer ++ ";".intercalate (sequence.parameters.map toString) ++ "m"

def renderAll (sequences : List Sequence) : String := String.join (sequences.map render)

end Sequence
end TermStyle
