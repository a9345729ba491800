import TermStyle.Fault
import TermStyle.Version

/-!
What the program knows of its platform and does to it: commands, whose outcomes are answered in turn, the
console interface, and the user who may be asked. Everything done is kept as a trace, in order and with its
answers. -/

namespace TermStyle

namespace Platform

/-- How a command ends: with an exit code and an output, or not at all. -/
inductive Outcome
  | exit (code : Int) (output : String)
  | fault (cause : CommandFault)
  deriving DecidableEq, Repr

/-- The console interface: missing, failing when it is asked for, or there, with the handles of the standard
streams and the results of setting the mode in turn. -/
inductive Kernel
  | absent
  | broken
  | present (handles : List (Int × Int)) (results : List Int)
  deriving DecidableEq, Repr

/-- The handle of a standard stream; zero stands for none. -/
def Kernel.handle : Kernel → Int → Int
  | .present handles _, number => (handles.lookup number).getD 0
  | _, _ => 0

structure Call where
  command : List String
  timeout : Value

inductive Request
  | handle (number : Int)
  | mode (handle mode : Int)
  deriving DecidableEq, Repr

/-- One thing done to the platform, or asked of its user, with what came of it. -/
inductive Event
  | command (call : Call) (outcome : Outcome)
  | request (request : Request) (answer : Int)
  | question (answer : Except Failure Bool)

end Platform

open Platform in
structure Platform where
  onWindows : Bool
  version : Option Version
  outcomes : List Outcome
  kernel : Kernel
  trace : List Event

namespace Platform

def plain : Platform := ⟨false, none, [], .absent, []⟩

def calls (platform : Platform) : List Call := platform.trace.filterMap fun
  | .command call _ => some call
  | _ => none

def requests (platform : Platform) : List Request := platform.trace.filterMap fun
  | .request request _ => some request
  | _ => none

def add (platform : Platform) (event : Event) : Platform := { platform with trace := platform.trace ++ [event] }

/-- Takes the next outcome. The last one repeats, and without any the command is missing. -/
def next : List Outcome → Outcome × List Outcome
  | [] => (.fault .missing, [])
  | [last] => (last, [last])
  | first :: rest => (first, rest)

def run (platform : Platform) (command : List String) (timeout : Value) : Outcome × Platform :=
  let (outcome, outcomes) := next platform.outcomes
  (outcome, { platform with outcomes }.add (.command ⟨command, timeout⟩ outcome))

def handle (platform : Platform) (number : Int) : Int × Platform :=
  let handle := platform.kernel.handle number
  (handle, platform.add (.request (.handle number) handle))

/-- Sets a console mode; not zero is success. -/
def setMode (platform : Platform) (handle mode : Int) : Int × Platform :=
  match platform.kernel with
  | .present handles (result :: results) =>
    (result, { platform with kernel := .present handles results }.add (.request (.mode handle mode) result))
  | _ => (0, platform.add (.request (.mode handle mode) 0))

end Platform
end TermStyle
