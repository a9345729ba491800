import TermStyle.Fault
import TermStyle.Text.CaseMap
import TermStyle.Whole

/-!
Severities of log records. Any whole number is one; six of them have names, and two of those have a second
one. Two names belong to other settings of the logging system and are refused in their own way. -/

namespace TermStyle.Log

abbrev Level := Whole

namespace Level
open Text

def notSet : Level := .ofInt 0
def debug : Level := .ofInt 10
def info : Level := .ofInt 20
def warning : Level := .ofInt 30
def error : Level := .ofInt 40
def critical : Level := .ofInt 50

def isBelow (level bound : Level) : Bool := level.number < bound.number

def names : List (String × Level) := [
  ("CRITICAL", critical), ("FATAL", critical), ("ERROR", error), ("WARN", warning), ("WARNING", warning),
  ("INFO", info), ("DEBUG", debug), ("NOTSET", notSet)]

def shownNames : List (Int × String) := [
  (50, "CRITICAL"), (40, "ERROR"), (30, "WARNING"), (20, "INFO"), (10, "DEBUG"), (0, "NOTSET")]

def display (level : Level) : String := (shownNames.lookup level.number).getD ("Level " ++ level.value.literal)

/-- The settings that share the name space of the severities, with the reason for which each is refused. -/
def reserved : List (String × Fault) := [
  ("BASIC_FORMAT", .logLevelName "'%(levelname)s:%(name)s:%(message)s'"),
  ("_STYLES", .logLevelType ("\x7b'%': (<class 'logging.PercentStyle'>, '%(levelname)s:%(name)s:%(message)s'), '\x7b': (<class 'logging.StrFormatStyle'>, '\x7blevelname\x7d:\x7bname\x7d:\x7bmessage\x7d'), '$': (<class 'logging.StringTemplateStyle'>, '$\x7blevelname\x7d:$\x7bname\x7d:$\x7bmessage\x7d')\x7d"))]

def ofName (name : String) : Except Fault Level :=
  let upper := CaseMap.upper name
  match names.lookup upper with
  | some level => .ok level
  | none => .error ((reserved.lookup upper).getD (.noLogLevel upper))

def ofValue : Value → Except Fault Level
  | .text name => ofName name
  | value =>
    match Whole.ofValue? value with
    | some level => .ok level
    | none => .error (.logLevelType value.literal)

def ofNumber (value : Value) : Except Fault Level :=
  match Whole.ofValue? value with
  | some level => .ok level
  | none => .error .recordLevelType

end Level
end TermStyle.Log
