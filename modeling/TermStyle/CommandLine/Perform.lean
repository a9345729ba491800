import TermStyle.CommandLine.DefaultCommand
import TermStyle.Log.Configure
import TermStyle.Platform.Console
import TermStyle.Settings.Apply

/-!
Running the program: settling the settings, reading the command line, and performing the command. It ends
with an exit code, and says whether it ended before there was a command to perform. -/

namespace TermStyle.CommandLine
open Text Log

def logger : String := "huecode.cli"

/-- The exit code, and whether the reading of the command line ended the run. -/
structure Ending where
  code : Nat
  early : Bool
  deriving DecidableEq, Repr

namespace Perform

def previewArguments : List (String × List String) := [
  ("color256", ["208"]), ("bg-color256", ["236"]), ("rgb", ["255", "136", "0"]), ("bg-rgb", ["40", "40", "40"]),
  ("hex", ["#ff8800"]), ("bg-hex", ["#282828"])]

def padded (width : Nat) (text : String) : String := text ++ Usage.spaces (width - text.length)

def nameWidth : Nat := (Attribute.table.map (·.1.length)).foldl max 0

def preview (name : String) (spec : Attribute) : String × String :=
  match spec with
  | .fixed code => (s!"SGR {code}", name)
  | _ =>
    let directive := name ++ ":" ++ ",".intercalate ((previewArguments.lookup name).getD [])
    (directive, directive)

def listAttribute (name : String) (spec : Attribute) : Action Unit := do
  let (description, directive) := preview name spec
  let sample ← Styler.apply "sample" [directive]
  let label ← Styler.emphasized Emphasis.aside (padded 9 (Tier.clamp spec.minTier).label)
  Action.print ("  " ++ padded nameWidth name ++ "  " ++ label ++ "  " ++ padded 22 description ++ " " ++ sample)

def listAttributes : Action Unit := do
  Action.print (← Styler.emphasized Emphasis.header "Attributes")
  Attribute.table.forM fun (name, spec) => listAttribute name spec

def detect (explain : Bool) : Action Unit := do
  let context := (← Action.world).detection
  let finding ← Action.noted (Detection.explain context.env context.onWindows context.version)
  let tier ← Styler.level
  if !explain then Action.print (toString tier.level)
  else
    Action.print s!"detected: {finding.tier.level} ({finding.tier.label})"
    Action.print s!"rule:     {finding.ruleName}"
    if tier != finding.tier then Action.print s!"in effect: {tier.level} ({tier.label}, overridden)"

def ruler (mark : Char) (width : Nat) : String := .ofList (List.replicate width mark)

def showSettings (settings : Settings) (path : Option String) : Action Unit := do
  Action.print "Current huecode configuration:"
  Action.print (ruler '=' 40)
  Action.print ("  color_mode: " ++ settings.colorMode.display)
  Action.print ("  level: " ++ if settings.hasLevel then settings.level.display else "(not set)")
  Action.print ("  log_level: " ++ settings.logLevel.display)
  Action.print s!"  tier in effect: {(← Styler.level).level}"
  let world ← Action.world
  let file ← match path.filter (!·.isEmpty) with
    | some path => pure (some path)
    | none => Action.lift (Settings.find world.store world.env)
  match file with
  | some file => Action.print ("\nConfig file: " ++ file)
  | none => Action.print "\nNo config file found (using defaults)"

def alreadyThere (path : String) : Problem :=
  .argument "Config file already exists, use --force to overwrite" (some "config_path") (some path) none

def initSettings (path : String) (mode level : Value) (force : Bool) : Action Unit := do
  let path := (Store.Path.ofText path).text
  if (← Action.lift (Settings.isThere (← Action.world).store path)) && !force then Action.fail (alreadyThere path)
  let settings ← MonadExcept.ofExcept (Settings.validate { Settings.standard with colorMode := mode, level })
  settings.save path
  Action.print ("Created config file: " ++ path)
  Action.print "\nGenerated configuration:"
  Action.print (ruler '-' 30)
  Action.print settings.document

def command (settings : Settings) (globals : Globals) : Command → Action Unit
  | .both text attributes => do
    Action.print (← Styler.format (← Styler.apply text [" ".intercalate attributes]))
  | .format template => do Action.print (← Styler.format template)
  | .apply text attributes => do Action.print (← Styler.apply text [" ".intercalate attributes])
  | .detect explain => detect explain
  | .attributes => listAttributes
  | .showSettings => showSettings settings globals.config
  | .initSettings path mode level force => initSettings path mode level force

/-- Lets the console show styles, without touching the registry. -/
def enableConsole : Action Unit := do
  if (← Action.world).platform.onWindows && (← Styler.level) != .none then
    let report ← Platform.Console.enable true none
    Action.note [.debug logger
      ("Console VT processing enabled=" ++ Value.boolLiteral report.enabled ++ " via " ++ report.method.name)]

/-- Settles settings, log level and tier. What the command line says wins over the settings. -/
def configure (globals : Globals) : Action Settings := do
  let settings ← Settings.loadIn globals.config
  Log.Setup.restrict ((globals.logLevel.map .text).getD settings.logLevel)
  settings.apply
  if globals.noColor then Styler.setLevel (.int 0)
  else match globals.level with
    | .null => pure ()
    | level => Styler.setLevel level
  Log.Setup.paint (.int (← Styler.level).level)
  enableConsole
  return settings

def reported (problem : Problem) : Action Ending := do
  Action.note [.debug logger "huecode failed"]
  if problem.isOversized then throw (.fault .oversized)
  Action.report (← Styler.emphasized Emphasis.error ("Error: " ++ problem.text))
  return ⟨1, false⟩

def reportingProblems (action : Action Ending) : Action Ending := do
  try action
  catch
    | .problem problem => reported problem
    | failure => throw failure

def stopped : Stop → Action Ending
  | .help text => do
    Action.inWorld fun world => { world with output := world.output ++ text }
    return ⟨0, true⟩
  | .refused usage program message => do
    Action.inWorld fun world => { world with errors := world.errors ++ usage ++ program ++ ": error: " ++ message ++ "\n" }
    return ⟨2, true⟩

def interruptible (action : Action Ending) : Action Ending := do
  try action
  catch
    | .interrupt =>
      Action.report "\nOperation cancelled by user"
      return ⟨130, false⟩
    | failure => throw failure

/-- Performs what a command line says, or shows the help if it names no command. -/
def perform (settings : Settings) (tree : Tree) (parsed : Parsed) : Action Ending :=
  match Command.ofParsed? parsed with
  | none => do
    Action.inWorld fun world => { world with output := world.output ++ Help.render tree }
    return ⟨1, false⟩
  | some found => reportingProblems <| interruptible do
    command settings (.ofParsed parsed) found
    return ⟨0, false⟩

/-- The words before the command, less the wishes for help, which are left to the whole grammar. -/
def preliminaryWords (words : List String) : List String :=
  (DefaultCommand.split words).1.filter fun word => !Program.helpFlag.names.contains word

/-- Reads and performs the words behind the command's name, once the settings are settled. -/
def settled (words : List String) (settings : Settings) : Action Ending := do
  let tree := Program.tree (← Styler.level) (Program.columns (← Action.world).env)
  match tree.parse words with
  | .error stop => stopped stop
  | .ok parsed => perform settings tree parsed

def run (given : List String) : Action Ending := do
  let words := DefaultCommand.insert given
  match (Program.preliminary (Program.columns (← Action.world).env)).parse (preliminaryWords words) with
  | .error stop => stopped stop
  | .ok parsed =>
    let configured ← try pure (Except.ok (← configure (.ofParsed parsed)))
      catch
        | .problem problem => pure (Except.error problem)
        | failure => throw failure
    match configured with
    | .error problem => reported problem
    | .ok settings => settled words settings

end Perform
end TermStyle.CommandLine
