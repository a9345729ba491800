import TermStyle.Platform.Query
import TermStyle.Variable

/-!
Making a Windows console understand control sequences. The version decides between a helper program and
the console interface; where that is missing, a registry value may do, which is only written with
consent. -/

namespace TermStyle.Platform.Console
open Log

def logger : String := "huecode.windows"

inductive Method
  | notWindows
  | helper
  | interface
  | registry
  deriving DecidableEq, Repr

def Method.name : Method → String
  | .notWindows => "not windows"
  | .helper => "ansicon method"
  | .interface => "winapi method"
  | .registry => "registry method"

/-- The first build of release ten whose console understands control sequences. -/
def interfaceBuild : Int := 14393

def needsHelper (version : Version) : Bool :=
  version.major < 10 || (version.major == 10 && version.build < interfaceBuild)

def succeeds (command : List String) : Action Bool := do
  return (← Query.absorbed (fun problem => .debug logger problem.text) (runCommand command patience)).isSome

def standardHelper : String := "ansicon"

def helper (env : Environment) : String := (env.filled? Variable.consoleHelper).getD standardHelper

def outputHandle : Int := -11
def errorHandle : Int := -12

/-- Processed output, wrapping at the end of a line, and control sequences. -/
def vtMode : Int := 7

def enableStream (number : Int) : Action Bool := do
  let (handle, platform) := (← Action.world).platform.handle number
  let (result, platform) := platform.setMode handle vtMode
  Action.inWorld ({ · with platform })
  if result = 0 then Action.note [.debug logger s!"SetConsoleMode failed for std handle {number}"]
  return result != 0

def enableStreams : Action Bool := do
  let output ← enableStream outputHandle
  let errors ← enableStream errorHandle
  return output && errors

def registryKey : String := "HKCU\\CONSOLE"
def registryValue : String := "VirtualTerminalLevel"

def registryQuery : List String := ["reg", "query", registryKey, "/v", registryValue]

def registryAddition : List String :=
  ["reg", "add", registryKey, "/f", "/v", registryValue, "/t", "REG_DWORD", "/d", "1"]

def ask (answer : Except Failure Bool) : Action Bool := do
  Action.inWorld fun world => { world with platform := world.platform.add (.question answer) }
  MonadExcept.ofExcept answer

/-- How often consent was asked for goes with the answer. -/
def enableRegistry (skipRegistry : Bool) (confirm : Option (Except Failure Bool)) : Action (Bool × Nat) := do
  if skipRegistry then return (false, 0)
  if ← succeeds registryQuery then return (true, 0)
  match confirm with
  | none => return (false, 0)
  | some answer => if ← ask answer then return (← succeeds registryAddition, 1) else return (false, 1)

structure Report where
  enabled : Bool
  method : Method
  asked : Nat
  deriving DecidableEq, Repr

structure Facts where
  onWindows : Bool
  version : Option Version
  deriving DecidableEq, Repr

def factsFor (given : Option Facts) (platform : Platform) : Facts :=
  given.getD ⟨platform.onWindows, platform.version⟩

/-- Enables control sequences. `confirm` is what comes of asking the user. -/
def enableAsking (given : Option Facts) (skipRegistry : Bool) (confirm : Option (Except Failure Bool)) :
    Action Report := do
  let facts := factsFor given (← Action.world).platform
  if !facts.onWindows then return ⟨false, .notWindows, 0⟩
  if facts.version.any needsHelper then
    return ⟨← succeeds [helper (← Action.world).env, "-p"], .helper, 0⟩
  match (← Action.world).platform.kernel with
  | .present _ _ => return ⟨← enableStreams, .interface, 0⟩
  | kernel =>
    if kernel = .broken then
      Action.note [(Record.debug logger "kernel32 unavailable: ").withCause (.command .missing)]
    let (enabled, asked) ← enableRegistry skipRegistry confirm
    return ⟨enabled, .registry, asked⟩

/-- Enables control sequences for the given platform facts. `consent` is what the user answers when asked. -/
def enableFor (onWindows : Bool) (version : Option Version) (skipRegistry : Bool) (consent : Option Bool) :
    Action Report := enableAsking (some ⟨onWindows, version⟩) skipRegistry (consent.map .ok)

def enable (skipRegistry : Bool) (consent : Option Bool) : Action Report :=
  enableAsking none skipRegistry (consent.map .ok)

end TermStyle.Platform.Console
