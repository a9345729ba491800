import TermStyle.CommandLine.Perform
import Std.Time

/-!
The program as a command: what it may look at is read, the run is computed, and what it printed and changed
is written. -/

namespace TermStyle.Shell

def environment : IO Environment := do
  let found ← Variable.all.filterMapM fun name => do return (← IO.getEnv name).map fun value => (name, value)
  return ⟨found⟩

def now : IO Calendar.Moment := do
  let time ← Std.Time.PlainDateTime.now
  return ⟨⟨time.year.toInt.toNat, time.month.toNat, time.day.toNat⟩, time.hour.toNat, time.minute.toNat,
    time.second.toNat, time.nanosecond.toNat / 1000, none⟩

def fetch (store : Store) (name : String) : IO Store := do
  match ← (IO.FS.readBinFile name).toBaseIO with
  | .ok content => return ((Store.install name content).on store).2
  | .error _ =>
    match ← (IO.FS.realPath name).toBaseIO with
    | .ok path =>
      if ← path.isDir then return ((Store.ensureTree (name.length + 1) (Store.Path.ofText name)).on store).2
      return store
    | .error _ => return store

/-- Only settings files are ever read, and words of the command line are the names they can have. Accounts are
not looked up. -/
def fetchAll (env : Environment) (words : List String) : IO Store :=
  (Settings.candidates .empty env ++ words.flatMap (·.splitOn "=")).foldlM fetch .empty

def locationText (location : Store.Location) : String :=
  (if location.absolute then "/" else "") ++ "/".intercalate location.parts

def commit (before after : Store) : IO Unit :=
  after.nodes.forM fun (location, node) => do
    if before.node? location != some node then
      match node with
      | .directory => IO.FS.createDirAll (locationText location)
      | .file content => IO.FS.writeBinFile (locationText location) content

def start (env : Environment) (store : Store) (moment : Calendar.Moment) (terminal : Bool) : Session where
  styler := ⟨.environment, none, 0⟩
  world := {
    env, store, terminal
    platform := .plain
    log := .initial
    now := moment
    origin := fun _ => .unknown
    interrupting := false
    output := ""
    errors := ""
    journal := [] }

def run (words : List String) : Action CommandLine.Ending := do
  Log.Setup.configure .standard
  CommandLine.Perform.run words

def exitCode : Except Failure CommandLine.Ending → UInt32
  | .ok ending => ending.code.toUInt32
  | .error _ => 1

def lastWords : Except Failure CommandLine.Ending → String
  | .error failure => (failure.message?.map (· ++ "\n")).getD ""
  | .ok _ => ""

end TermStyle.Shell

def main (words : List String) : IO UInt32 := do
  let env ← TermStyle.Shell.environment
  let store ← TermStyle.Shell.fetchAll env words
  let session := TermStyle.Shell.start env store (← TermStyle.Shell.now) (← (← IO.getStderr).isTty)
  let (result, after) := (TermStyle.Shell.run words).run.run session
  TermStyle.Shell.commit store after.world.store
  IO.print after.world.output
  IO.eprint (after.world.errors ++ TermStyle.Shell.lastWords result)
  return TermStyle.Shell.exitCode result
