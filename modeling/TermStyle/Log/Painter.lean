import TermStyle.Log.Formatter

/-!
A coloured formatter at work. It finds out its tier when it first needs one, keeps what it made for the tiers it has met,
and lends a record a styled name only while the record is laid out. -/

namespace TermStyle.Log

/-- A record under the name of its severity, which a formatter may change for a while. -/
structure Entry where
  record : Record
  levelName : String

def Entry.ofRecord (record : Record) : Entry := ⟨record, Level.display record.level⟩

structure Painter where
  format : String
  tier : Option Whole
  /-- What goes in front of the names of severities, for each tier that was met. -/
  known : List (Int × List (String × String))
  /-- How often the surroundings were looked at. -/
  detections : Nat

namespace Painter

def fresh (format : String) (tier : Option Whole) : Painter := ⟨format, tier, [], 0⟩

def repaint (painter : Painter) (tier : Whole) : Painter := { painter with tier := some tier }

/-- What is carried on to the next line. -/
def formatter (painter : Painter) : Formatter := .colored painter.format painter.tier

/-- Steps that change a painter and the entry it works on, also when they fail. -/
abbrev Work := ExceptT Fault (StateM (Painter × Entry))

def change (change : Painter → Painter) : Work Unit := modify fun (painter, entry) => (change painter, entry)

def rename (levelName : String) : Work Unit := modify fun (painter, entry) => (painter, { entry with levelName })

/-- The tier in force. An open one is found out by detection; without a context there is nothing to detect from, and it
stays open. -/
def settle (context : Option Detection.Context) : Work (Option Whole) := do
  match (← get).1.tier, context with
  | some tier, _ => return some tier
  | none, none => return none
  | none, some context =>
    change fun painter => { painter with detections := painter.detections + 1 }
    let finding ← MonadExcept.ofExcept (Detection.evaluate context)
    let tier := Whole.ofInt finding.tier.level
    change ({ · with tier := some tier })
    return some tier

def fronts (tier : Int) : Except Fault (List (String × String)) :=
  Formatter.directives.mapM fun entry => do
    return (entry.1, ← (Compile.text entry.2 tier).value.mapError .numeral)

/-- What goes in front of the names, made once for a tier and kept. -/
def frontsAt (tier : Int) : Work (List (String × String)) := do
  match (← get).1.known.lookup tier with
  | some found => return found
  | none =>
    let made ← MonadExcept.ofExcept (fronts tier)
    change fun painter => { painter with known := (tier, made) :: painter.known }
    return made

def front? (context : Option Detection.Context) : Work (Option String) := do
  match ← settle context with
  | none => return none
  | some tier =>
    if tier.number = 0 then return none
    let found ← frontsAt tier.number
    return (found.lookup (← get).2.levelName).filter (!·.isEmpty)

def layOut (stamp : Stamp) : Work String := do
  let (painter, entry) ← get
  MonadExcept.ofExcept (Formatter.layOut painter.format entry.record entry.levelName stamp)

/-- The line for the entry. The entry has its own name again, however that ends. -/
def write (context : Option Detection.Context) (stamp : Stamp) : Work String := do
  match ← front? context with
  | none => layOut stamp
  | some front =>
    let original := (← get).2.levelName
    rename (front ++ original ++ Sequence.reset.render)
    try layOut stamp
    finally rename original

def line (painter : Painter) (entry : Entry) (context : Option Detection.Context) (stamp : Stamp) :
    Except Fault String × Painter × Entry := (write context stamp).run.run (painter, entry)

end Painter

def Formatter.line (formatter : Formatter) (context : Option Detection.Context) (record : Record)
    (stamp : Stamp) : Except Fault String × Formatter :=
  match formatter with
  | .plain format => (layOut format record (Level.display record.level) stamp, formatter)
  | .colored format tier =>
    let (line, painter, _) := (Painter.fresh format tier).line (.ofRecord record) context stamp
    (line, painter.formatter)

end TermStyle.Log
