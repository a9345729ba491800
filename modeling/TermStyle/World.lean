import TermStyle.Log.Painter
import TermStyle.Log.Setup
import TermStyle.Platform
import TermStyle.Store.Rotation

/-!
Everything around the program: environment, files, platform, logging and the two output streams. What is
logged goes through here, since only here are the handlers that a record reaches. -/

namespace TermStyle
open Log

structure World where
  env : Environment
  store : Store
  platform : Platform
  log : Setup
  /-- The point of time that records are stamped with. -/
  now : Calendar.Moment
  /-- Where each record is made. -/
  origin : Record → Origin
  /-- Whether the error stream is a terminal. -/
  terminal : Bool
  /-- Whether the user is about to interrupt the program. -/
  interrupting : Bool
  output : String
  errors : String
  /-- The records that reached a journal handler. -/
  journal : List Record

namespace World

def detection (world : World) : Detection.Context :=
  .ofEnvironment world.env world.platform.onWindows world.platform.version

def stamp (world : World) (record : Record) : Stamp := ⟨world.now, world.origin record⟩

def print (world : World) (text : String) : World := { world with output := world.output ++ text ++ "\n" }

def report (world : World) (text : String) : World := { world with errors := world.errors ++ text ++ "\n" }

/-- Gives a record to one handler. A record that cannot be laid out or written is lost. -/
def deliver (world : World) (record : Record) (handler : Handler) : World × Handler :=
  if record.level.isBelow handler.level then (world, handler)
  else
    let (line?, formatter) := handler.formatter.line (some world.detection) record (world.stamp record)
    let settled := { handler with formatter }
    match handler.sink, line? with
    | .journal, _ => ({ world with journal := world.journal ++ [record] }, handler)
    | .console, .ok line => (world.report line, settled)
    | .file path limit backups, .ok line =>
      match world.store.appendLine path limit backups line with
      | .ok store => ({ world with store }, settled)
      | .error _ => (world, settled)
    | _, .error _ => (world, settled)

/-- Why a record cannot be noted. Only a journal reads the message itself, and only if it lets the record through. -/
def refusal? (world : World) (record : Record) : Option Fault :=
  let reads := fun handler : Handler => handler.sink == .journal && !record.level.isBelow handler.level
  if world.log.admits record.logger record.level && (world.log.handlersOf record.logger).any reads then
    match record.message with
    | .ok _ => none
    | .error fault => some fault
  else none

def deliverAll (record : Record) : List Handler → World → World × List Handler
  | [], world => (world, [])
  | handler :: rest, world =>
    let (world, settled) := world.deliver record handler
    let (world, others) := deliverAll record rest world
    (world, settled :: others)

/-- Where no handler is set up, warnings and worse go to the error stream as bare messages. -/
def lastResort (world : World) (record : Record) : World :=
  if record.level.isBelow Level.warning then world
  else match record.message with
    | .ok text => world.report text
    | .error _ => world

def emit (world : World) (record : Record) : World :=
  if !world.log.admits record.logger record.level then world
  else if (world.log.handlersOf record.logger).isEmpty then world.lastResort record
  else
    let (world, handlers) := deliverAll record world.log.handlers world
    { world with log := { world.log with handlers } }

end World
end TermStyle
