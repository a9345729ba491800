import TermStyle.World

/-!
A session: a styler in its world. Actions change both, also when they fail half way. -/

namespace TermStyle
open Log

/-- Where the tier comes from: the environment, or answers given in turn. -/
inductive Detector
  | environment
  | script (answers : Nat → Value)

/-- A styler keeps the tier in force, once there is one, and counts how often it asked its detector. -/
structure Styler where
  detector : Detector
  tier : Option Tier
  detections : Nat

structure Session where
  styler : Styler
  world : World

abbrev Action := ExceptT Failure (StateM Session)

namespace Action

def inWorld (change : World → World) : Action Unit := modify fun session => { session with world := change session.world }

def world : Action World := return (← get).world

def lift (result : Except Fault α) : Action α :=
  match result with
  | .ok value => pure value
  | .error fault => throw (.fault fault)

def note (records : List Record) : Action Unit := records.forM fun record => do
  match (← world).refusal? record with
  | some fault => throw (.fault fault)
  | none => inWorld (·.emit record)

def noted (result : Noted (Except Fault α)) : Action α := do
  note result.records
  lift result.value

def fail (problem : Problem) : Action α := throw (.problem problem)

def print (text : String) : Action Unit := inWorld (World.print · text)

def report (text : String) : Action Unit := inWorld (World.report · text)

/-- Runs what can only change the files. -/
def onStore (change : Store.Change Unit) : Action Unit := do
  let (result, store) := change.on (← world).store
  inWorld ({ · with store })
  lift (result.mapError .store)

end Action
end TermStyle
