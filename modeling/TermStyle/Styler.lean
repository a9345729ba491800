import TermStyle.Emphasis
import TermStyle.Session
import TermStyle.Template

/-!
Styling text. The tier is found out when it is first needed and kept until it is reset; it can be set to
any value that reads as a tier. Every rendering uses one tier throughout. -/

namespace TermStyle.Styler
open Log

def make (detector : Detector) (tier : Option Value) : Except Fault Styler :=
  match tier with
  | none => .ok ⟨detector, none, 0⟩
  | some value => do return ⟨detector, some (← Tier.coerce value), 0⟩

def update (change : Styler → Styler) : Action Unit := modify fun session => { session with styler := change session.styler }

def ask : Action Value := do
  let styler := (← get).styler
  update ({ · with detections := styler.detections + 1 })
  match styler.detector with
  | .environment =>
    let context := (← Action.world).detection
    let tier ← Action.noted (Detection.detect context.env context.onWindows context.version)
    return .int tier.level
  | .script answers => return answers styler.detections

def level : Action Tier := do
  match (← get).styler.tier with
  | some tier => return tier
  | none =>
    let tier ← Action.lift (Tier.coerce (← ask))
    update ({ · with tier := some tier })
    return tier

def setLevel (value : Value) : Action Unit := do
  let tier ← Action.lift (Tier.coerce value)
  update ({ · with tier := some tier })

def resetLevel : Action Unit := update ({ · with tier := none })

def rendered (result : Noted (Except Numeral.Error String)) : Action String :=
  Action.noted ⟨result.value.mapError .numeral, result.records⟩

def compile (directives : String) : Action String := do rendered (Compile.text directives (← level).level)

def rawApply (text : String) (groups : List String) : Action String :=
  return (← compile (" ".intercalate groups)) ++ text

def apply (text : String) (groups : List String) : Action String :=
  return (← rawApply text groups) ++ Sequence.reset.render

def rawFormat (template : String) : Action String := do rendered ((Template.ofText template).expand (← level).level)

def format (template : String) : Action String := do
  if (← Action.world).interrupting then throw .interrupt
  return (← rawFormat template) ++ Sequence.reset.render

def emphasized (emphasis : String → Tier → String) (text : String) : Action String :=
  return emphasis text (← level)

end TermStyle.Styler
