import TermStyle.Session

/-!
Running commands, and asking Windows for its version with one. A version that cannot be found out is
unknown, which is no error. -/

namespace TermStyle.Platform
open Text Log

def patience : Value := .int 5

def tryCommand (command : List String) (timeout : Value) : Action Outcome := do
  let (outcome, platform) := (← Action.world).platform.run command timeout
  Action.inWorld ({ · with platform })
  return outcome

def runCommand (command : List String) (timeout : Value) : Action String := do
  match ← tryCommand command timeout with
  | .exit 0 output => return output
  | outcome =>
    match command.head? with
    | none => throw (.fault .emptyCommand)
    | some name =>
      match outcome with
      | .fault cause => Action.fail (.platform ("Could not run " ++ name) (some command) none (some (.command cause)))
      | .exit code _ => Action.fail (.platform (name ++ " exited with an error") (some command) (some code) none)

namespace Query

def logger : String := "huecode.platform_info"

/-- Notes a problem and goes on without a result. -/
def absorbed (words : Problem → Record) (action : Action α) : Action (Option α) := do
  try
    return some (← action)
  catch
    | .problem problem =>
      Action.note [words problem]
      return none
    | failure => throw failure

def failed (problem : Problem) : Record := .debug logger ("Windows version query failed: " ++ problem.text)

def version : Action (Option Version) := do
  if !(← Action.world).platform.onWindows then return none
  match ← absorbed failed (runCommand ["cmd", "/c", "ver"] patience) with
  | none => return none
  | some banner =>
    let found ← Action.lift ((Version.ofBanner banner).mapError .numeral)
    if found.isNone then Action.note [.debug logger ("Unrecognized ver output: " ++ Quoted.quoted banner)]
    return found

end Query
end TermStyle.Platform
