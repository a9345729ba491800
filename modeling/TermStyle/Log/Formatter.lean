import TermStyle.Compile
import TermStyle.Detection
import TermStyle.Text.Word

/-!
Laying records out as lines. A format is a percent template over the fields of a record. A coloured
formatter also styles the name of the severity, for a tier that may still be open. -/

namespace TermStyle.Log
open Text

/-- Where a record was made, in the source and among threads and processes, and when by the clock: since its epoch,
the thousandths of the second, and since the start. -/
structure Origin where
  path : String
  file : String
  unit : String
  function : String
  line : Int
  thread : Int
  process : Int
  created : Float
  milliseconds : Float
  elapsed : Float

/-- For lines in a format that shows none of it, like the standard one. -/
def Origin.unknown : Origin := ⟨"", "", "", "", 0, 0, 0, 0, 0, 0⟩

/-- What a line says that the record itself does not. -/
structure Stamp where
  now : Calendar.Moment
  origin : Origin

inductive Formatter
  | plain (format : String)
  | colored (format : String) (tier : Option Whole)
  deriving DecidableEq, Repr

namespace Formatter

def format : Formatter → String
  | .plain format | .colored format _ => format

def isColored : Formatter → Bool
  | .plain _ => false
  | .colored _ _ => true

def messageOnly : String := "%(message)s"

def standard : String := "%(asctime)s - %(name)s - %(levelname)s - %(message)s"

/-- The letters that may end a directive, in both cases and in the shapes that count as one of them. -/
def conversions : List Char := "diouxefgcrsa%DIOUXEFGCRSA".toList ++ [.ofNat 0x130, .ofNat 0x131, .ofNat 0x17f]

def isFlag (c : Char) : Bool := "#0+ -".toList.contains c

/-- What follows a count, which is a star or a run of digits. -/
def afterCount? : List Char → Option (List Char)
  | '*' :: rest => some rest
  | c :: rest => if Digit.isDigit c then some (rest.dropWhile Digit.isDigit) else none
  | [] => none

def endsDirective (text : List Char) : Bool :=
  let text := text.dropWhile isFlag
  let text := (afterCount? text).getD text
  let text := match text with
    | '.' :: rest => (afterCount? rest).getD text
    | text => text
  text.head?.any conversions.contains

def startsField : List Char → Bool
  | '%' :: '(' :: rest =>
    match rest.dropWhile Word.isWord with
    | ')' :: tail => rest.head?.any Word.isWord && endsDirective tail
    | _ => false
  | _ => false

def namesField : List Char → Bool
  | [] => false
  | c :: rest => startsField (c :: rest) || namesField rest

/-- The format to use for a given text: the message alone for the empty one, and nothing for one that
names no field. -/
def checked (text : String) : Except Fault String :=
  let format := if text.isEmpty then messageOnly else text
  if namesField format.toList then .ok format else .error (.logFormat format)

def directives : List (String × String) := [
  ("DEBUG", "cyan"), ("INFO", "green"), ("WARNING", "yellow"), ("ERROR", "red"), ("CRITICAL", "bold magenta")]

def timestamp (now : Calendar.Moment) : String :=
  now.date.display ++ " " ++ ":".intercalate ([now.hour, now.minute, now.second].map (Calendar.padded 2)) ++ "," ++
    Calendar.padded 3 (now.microsecond / 1000)

/-- The arguments as one value. A dictionary that gives fields stands for itself. -/
def argsValue (args : List Value) : Value :=
  match args with
  | [.dict (entry :: entries)] => .dict (entry :: entries)
  | args => .tuple args

def fields (record : Record) (levelName message : String) (stamp : Stamp) : List (String × Value) :=
  let origin := stamp.origin
  [ ("name", .text record.logger), ("msg", .text record.text), ("args", argsValue record.args),
    ("levelname", .text levelName), ("levelno", record.level.value), ("pathname", .text origin.path),
    ("filename", .text origin.file), ("module", .text origin.unit), ("exc_info", .null), ("exc_text", .null),
    ("stack_info", .null), ("lineno", .int origin.line), ("funcName", .text origin.function),
    ("created", .float origin.created), ("msecs", .float origin.milliseconds),
    ("relativeCreated", .float origin.elapsed), ("thread", .int origin.thread), ("threadName", .text "MainThread"),
    ("processName", .text "MainProcess"), ("process", .int origin.process), ("message", .text message),
    ("asctime", .text (timestamp stamp.now))]

def fieldFault : Percent.Error → Fault
  | .missingField name => .logField name
  | error => .percent error

def layOut (format : String) (record : Record) (levelName : String) (stamp : Stamp) : Except Fault String := do
  let message ← record.message
  let known := fields record levelName message stamp
  let whole := Value.dict (known.map fun (name, value) => (.text name, value))
  (Percent.format format (.dict (fun name => known.lookup name) [whole])).mapError fieldFault

def tier? : Formatter → Option Whole
  | .plain _ => none
  | .colored _ tier => tier

def withTier (tier : Whole) : Formatter → Formatter
  | .colored format _ => .colored format (some tier)
  | formatter => formatter

end Formatter
end TermStyle.Log
