import TermStyle.Log.Level

/-!
Log records, and results that come with the records made on the way. Making a record and deciding
whether it is shown are kept apart: who computes makes them all, who owns the log drops some. -/

namespace TermStyle.Log
open Text

/-- One message for the log. The text is a percent template if there are arguments. A fault that the
message ends with is kept as its cause, so that its wording can be chosen by whoever shows it. -/
structure Record where
  level : Level
  logger : String
  text : String
  args : List Value
  cause : Option Fault

namespace Record

def debug (logger text : String) : Record := ⟨Level.debug, logger, text, [], none⟩

def warning (logger text : String) : Record := ⟨Level.warning, logger, text, [], none⟩

def withArgs (record : Record) (args : List Value) : Record := { record with args }

def withCause (record : Record) (fault : Fault) : Record := { record with cause := some fault }

def field? (name : String) : Value × Value → Option Value
  | (.text key, value) => if key = name then some value else none
  | _ => none

/-- A filled dictionary that is the only argument gives the fields; all else is a list of values. -/
def source : List Value → Percent.Source
  | [.dict (entry :: entries)] =>
    let fields := entry :: entries
    .dict (fun name => fields.findSome? (field? name)) [.dict fields]
  | args => .list args

/-- The text with its arguments put in. A whole number that is too long has none to put in. -/
def message (record : Record) : Except Fault String :=
  if record.args.isEmpty then .ok (record.text ++ (record.cause.map Fault.summary).getD "")
  else if record.args.any (·.isOversized) then .error .oversized
  else (Percent.format record.text (source record.args)).mapError .percent

end Record

/-- A value, and the records made while it was computed, in order. -/
structure Noted (α : Type) where
  value : α
  records : List Record

end TermStyle.Log
