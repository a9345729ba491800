import TermStyle.Log.Formatter

/-!
The logging of the program: one family of loggers, which share a severity threshold and a list of handlers.
Whether a logger is one of the family depends on its name and on the loggers there are; nothing that is set
up here holds for one that is not. -/

namespace TermStyle.Log

/-- Where a handler puts its lines. A file rotates at a size; a limit of zero or less means never. -/
inductive Sink
  | console
  | file (path : String) (limit backups : Int)
  | journal
  deriving DecidableEq, Repr

structure Handler where
  level : Level
  formatter : Formatter
  sink : Sink
  deriving DecidableEq, Repr

structure Setup where
  level : Level
  handlers : List Handler
  propagate : Bool
  configured : Bool
  /-- The loggers that were asked for. That of the family is always there. -/
  loggers : List String := []
  deriving DecidableEq, Repr

namespace Setup

def family : String := "huecode"

/-- Whether there is a logger of the name, which is given backwards. -/
def isKnown (setup : Setup) (backwards : List Char) : Bool :=
  (family :: setup.loggers).any fun logger => logger.toList.reverse == backwards

/-- Whether the family is above a logger, whose name is given backwards. Right above it is the longest known
name that ends at a dot. A dot directly in front of one that ended an unknown name is passed over. -/
def descends (known : List Char → Bool) : List Char → Bool
  | '.' :: c :: rest =>
    if known (c :: rest) then c :: rest == family.toList.reverse || descends known (c :: rest)
    else descends known rest
  | _ :: rest => descends known rest
  | [] => false

def belongs (setup : Setup) (logger : String) : Bool :=
  logger == family || descends setup.isKnown logger.toList.reverse

def loggerName (name : String) : String :=
  if family.toList.isPrefixOf name.toList then name else family ++ "." ++ name

/-- The threshold of a logger. What sets none takes that of all logging, which lets warnings through. -/
def threshold (setup : Setup) (logger : String) : Level :=
  if setup.belongs logger && setup.level.number != 0 then setup.level else Level.warning

/-- Whether a record is looked at. What has no severity never is. -/
def admits (setup : Setup) (logger : String) (level : Level) : Bool :=
  0 < level.number && !level.isBelow (setup.threshold logger)

def handlersOf (setup : Setup) (logger : String) : List Handler :=
  if setup.belongs logger then setup.handlers else []

def isColored (setup : Setup) : Bool := setup.handlers.any (·.formatter.isColored)

def setLevel (setup : Setup) (level : Level) : Setup :=
  { setup with level, handlers := setup.handlers.map ({ · with level }) }

def register (setup : Setup) (logger : String) : Setup := { setup with loggers := setup.loggers.insert logger }

def setTier (setup : Setup) (tier : Whole) : Setup :=
  { setup with handlers := setup.handlers.map fun handler => { handler with formatter := handler.formatter.withTier tier } }

end Setup
end TermStyle.Log
