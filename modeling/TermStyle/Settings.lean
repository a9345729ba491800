import TermStyle.Environment
import TermStyle.Log.Record
import TermStyle.Tier
import TermStyle.Variable

/-!
The settings of the program: a colour mode, a tier and a log level. They start from defaults; a settings
document and the environment are laid over them field by field. A document may put any value into a field,
so checking is a step of its own. -/

namespace TermStyle

structure Settings where
  colorMode : Value
  level : Value
  logLevel : Value

namespace Settings
open Text Log

def logger : String := "huecode.config"

def automatic : String := "auto"
def always : String := "always"
def never : String := "never"

def colorModes : List String := [automatic, always, never]

def logLevels : List String := ["DEBUG", "INFO", "WARNING", "ERROR", "CRITICAL"]

def standardLogLevel : String := "WARNING"

def standard : Settings := ⟨.text automatic, .null, .text standardLogLevel⟩

def fields (settings : Settings) : List (String × Value) := [
  ("color_mode", settings.colorMode), ("level", settings.level), ("log_level", settings.logLevel)]

def update? (settings : Settings) (name : String) (value : Value) : Option Settings :=
  if name = "color_mode" then some { settings with colorMode := value }
  else if name = "level" then some { settings with level := value }
  else if name = "log_level" then some { settings with logLevel := value }
  else none

def namesField (key : Value) : Bool :=
  match key with
  | .text name => (standard.update? name .null).isSome
  | _ => false

def unknownKey (path : String) (key : Value) : Record :=
  (Record.warning logger "Unknown config key %r in %s").withArgs [key, .text path]

/-- Lays the entries of a document over the settings. Keys that name no setting are noted and skipped. -/
def overlay (path : String) : List (Value × Value) → Settings → Noted Settings
  | [], settings => ⟨settings, []⟩
  | (key, value) :: rest, settings =>
    let changed := match key with
      | .text name => settings.update? name value
      | _ => none
    match changed with
    | some changed => overlay path rest changed
    | none =>
      let later := overlay path rest settings
      ⟨later.value, unknownKey path key :: later.records⟩

def levelProblem (key : String) (value : Value) (cause : Option Fault) : Problem :=
  .configuration "Level must be an integer from 0 to 3" (some key) (some value) none cause

def environmentLevel (env : Environment) (level : Value) : Except Problem Value :=
  match env.filled? Variable.configLevel with
  | none => .ok level
  | some text =>
    match Numeral.read text with
    | .ok found => .ok (.int found)
    | .error error => .error (levelProblem Variable.configLevel (.text text) (some (.numeral error)))

def overlayEnvironment (settings : Settings) (env : Environment) : Except Problem Settings := do
  let cleaned := fun (clean : String → String) (name : String) (value : Value) =>
    ((env.filled? name).map fun text => Value.text (clean (Blank.strip text))).getD value
  return {
    colorMode := cleaned CaseMap.lower Variable.configColor settings.colorMode
    level := ← environmentLevel env settings.level
    logLevel := cleaned CaseMap.upper Variable.configLogLevel settings.logLevel }

def isMode : Value → Bool
  | .text mode => colorModes.contains mode
  | _ => false

/-- Unset, or a whole number that is a tier. -/
def isLevel : Value → Bool
  | .null => true
  | .int level => 0 ≤ level && level ≤ 3
  | _ => false

def isLogLevel (value : Value) : Bool := logLevels.contains (CaseMap.upper value.display)

def problem? (settings : Settings) : Option Problem :=
  if !isMode settings.colorMode then
    some (.configuration ("color_mode must be one of " ++ ", ".intercalate colorModes) (some "color_mode")
      (some settings.colorMode) none none)
  else if !isLevel settings.level then some (levelProblem "level" settings.level none)
  else if !isLogLevel settings.logLevel then
    some (.configuration "Unknown log level" (some "log_level") (some settings.logLevel) none none)
  else none

/-- Passes on settings that are in order. A log level is looked at by its text, which it must have. -/
def validate (settings : Settings) : Except Failure Settings :=
  match settings.problem? with
  | none => .ok settings
  | some problem =>
    if isMode settings.colorMode && isLevel settings.level && settings.logLevel.isOversized then
      .error (.fault .oversized)
    else .error (.problem problem)

def hasLevel (settings : Settings) : Bool :=
  match settings.level with
  | .null => false
  | _ => true

def hasMode (settings : Settings) (mode : String) : Bool :=
  match settings.colorMode with
  | .text text => text == mode
  | _ => false

/-- Whether the settings ask for a tier instead of trusting detection. -/
def pinsTier (settings : Settings) : Bool := settings.hasLevel || !settings.hasMode automatic

end Settings
end TermStyle
