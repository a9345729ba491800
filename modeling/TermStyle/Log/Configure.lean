import TermStyle.Session

/-!
Configuring the logging: once on demand, and again only by force. Steps that fail leave what was done
before them. -/

namespace TermStyle.Log
open Text

structure Options where
  level : Value
  file : Option String
  console : Bool
  colored : Bool
  format : Option String
  /-- The size in bytes at which the file rotates. -/
  limit : Int
  backups : Int
  tier : Option Whole
  force : Bool

namespace Options

def standardLevel : String := "WARNING"

def standardLimit : Int := 10
def standardBackups : Int := 3

def standard : Options where
  level := .text standardLevel
  file := none
  console := true
  colored := true
  format := none
  limit := standardLimit * 1024 * 1024
  backups := standardBackups
  tier := none
  force := false

end Options

namespace Setup

def logger : String := "huecode.logging_config"

/-- Nothing is configured yet: warnings are let through, and no handler takes them. -/
def initial : Setup := ⟨Level.warning, [], false, false, []⟩

def change (change : Setup → Setup) : Action Unit :=
  Action.inWorld fun world => { world with log := change world.log }

def add (handler : Handler) : Action Unit := change fun setup => { setup with handlers := setup.handlers ++ [handler] }

def addConsole (options : Options) (level : Level) (format : String) : Action Unit := do
  let format ← Action.lift (Formatter.checked format)
  let colored := options.colored && (← Action.world).terminal
  add ⟨level, if colored then .colored format options.tier else .plain format, .console⟩

/-- The file is made before the format is looked at. -/
def addFile (options : Options) (level : Level) (format path : String) : Action Unit := do
  Action.onStore (Store.ensureParent path)
  let place := (Store.Path.ofText path).settled.text
  Action.onStore (.once (·.touch place))
  let format ← Action.lift (Formatter.checked format)
  add ⟨level, .plain format, .file place options.limit options.backups⟩

def report (options : Options) (level : Level) : Record where
  level := Level.debug
  logger := logger
  text := "Logging configured - Level: %s, Console: %s, File: %s"
  args := [.text (Level.display level), .bool options.console, (options.file.map Value.text).getD .null]
  cause := none

def configure (options : Options) : Action Unit := do
  if (← Action.world).log.configured && !options.force then return
  let level ← Action.lift (Level.ofValue options.level)
  let format := options.format.getD Formatter.standard
  change ({ · with level, handlers := [] })
  if options.console then addConsole options level format
  match options.file.filter (!·.isEmpty) with
  | some path => addFile options level format path
  | none => pure ()
  change ({ · with propagate := false, configured := true })
  change (·.register logger)
  Action.note [report options level]

/-- The full name of a logger, which is known from then on. Asking for one configures the logging if that was
not done. -/
def getLogger (name : String) : Action String := do
  if !(← Action.world).log.configured then configure .standard
  change (·.register (loggerName name))
  return loggerName name

def log (name : String) (level : Value) (text : String) (args : List Value) : Action Unit := do
  let logger ← getLogger name
  let level ← Action.lift (Level.ofNumber level)
  Action.note [⟨level, logger, text, args, none⟩]

def restrict (level : Value) : Action Unit := do
  let level ← Action.lift (Level.ofValue level)
  change (·.setLevel level)

/-- Reads a tier from a number, of which the whole part counts, or from a text. -/
def tierOf : Value → Except Fault Whole
  | .text text => ((Numeral.read text).mapError .numeral).map .ofInt
  | .float number =>
    if number.isNaN then .error (.percent .notNumber)
    else if number.isInf then .error (.percent .infinite)
    else .ok (.ofInt (Decimal.Rounding.truncated number))
  | value =>
    match Whole.number? value with
    | some number => .ok (.ofInt number)
    | none => .error (.notNumeric (Percent.typeName value))

/-- Gives the coloured formatters a tier, which is looked at only if there is one. -/
def paint (tier : Value) : Action Unit := do
  if (← Action.world).log.isColored then
    let tier ← Action.lift (tierOf tier)
    change (·.setTier tier)

end Setup
end TermStyle.Log
