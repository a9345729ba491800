import TermStyle.Settings.Load
import TermStyle.Styler
import TermStyle.Yaml.Writer

/-!
Putting settings to work: the tier they ask for, that tier for a styler, and writing them to a file. -/

namespace TermStyle.Settings
open Log

def loadIn (path : Option String) : Action Settings := do
  let world ← Action.world
  let loaded := load world.store world.env path
  Action.note loaded.records
  MonadExcept.ofExcept loaded.value

/-- The tier that is asked for. The detector is only asked if it matters. -/
def resolve (settings : Settings) (detector : Action Value) : Action Tier := do
  if settings.hasLevel then Action.lift (Tier.coerce settings.level)
  else if settings.hasMode never then return .none
  else
    let detected ← Action.lift (Tier.coerce (← detector))
    return if settings.hasMode always then detected.max .basic else detected

def apply (settings : Settings) : Action Unit := do
  if !settings.pinsTier then return
  Styler.resetLevel
  let tier ← settings.resolve (return .int (← Styler.level).level)
  Styler.setLevel (.int tier.level)
  Action.note [.debug logger s!"Support tier set from configuration: {tier.level}"]

/-- The document that the settings are written as. What is unset is left out. -/
def document (settings : Settings) : String :=
  Yaml.Writer.document (.dict ((settings.fields.map fun (name, value) => (.text name, value)).filter fun entry =>
    match entry.2 with
    | .null => false
    | _ => true))

/-- Writes the settings to a file, over whatever it held, and makes the directories above it. -/
def save (settings : Settings) (path : String) : Action Unit := do
  Action.onStore (Store.install path settings.document.toUTF8)

end TermStyle.Settings
