import TermStyle.Color
import TermStyle.Store
import TermStyle.Text.Percent

/-!
What can go wrong, as causes. A fault is a single cause; a problem is what the program tells its user, with
details and perhaps the fault behind it. Texts are made in one place each. -/

namespace TermStyle
open Text

inductive CommandFault
  | missing
  | denied
  | timedOut
  | failed
  deriving DecidableEq, Repr

inductive Fault
  | numeral (error : Numeral.Error)
  | notTier (value : Value)
  | tierRange (level : Int)
  | color (error : Color.HexError)
  | calendar (error : Calendar.Error)
  | decimal (text : String)
  | codePoint
  | codePointSize
  | wholeSize
  | endless
  | notText
  | unknownWord (text : String)
  | oversized
  | emptyScalar
  | notTimestamp
  | document
  | undecodable
  | store (error : Store.Error)
  | command (fault : CommandFault)
  | emptyCommand
  | percent (error : Percent.Error)
  | logField (name : String)
  | logFormat (format : String)
  | noLogLevel (name : String)
  | logLevelName (literal : String)
  | logLevelType (literal : String)
  | recordLevelType
  | notNumeric (type : String)
  | remark (text : String)

namespace Fault

/-- Nothing is said of faults whose wording belongs to the operating system or to a document reader. -/
def message? : Fault → Option String
  | .numeral error => some error.message
  | .notTier value => some ("Invalid support tier: " ++ value.literal)
  | .tierRange level => some s!"{level} is not a valid SupportTier"
  | .color error => some error.message
  | .calendar error => some error.message
  | .decimal text => some ("could not convert string to float: " ++ Quoted.quoted text)
  | .codePoint => some "chr() arg not in range(0x110000)"
  | .codePointSize => some "Python int too large to convert to C int"
  | .wholeSize => some "int too large to convert to float"
  | .endless => some "maximum recursion depth exceeded"
  | .notText => some "expected string or bytes-like object, got 'list'"
  | .unknownWord text => some (Quoted.quoted text)
  | .oversized => some 
    s!"Exceeds the limit ({Value.digitLimit} digits) for integer string conversion; use sys.set_int_max_str_digits() to increase the limit"
  | .emptyScalar => some "string index out of range"
  | .notTimestamp => some "'NoneType' object has no attribute 'groupdict'"
  | .store .nulCharacter => some "embedded null byte"
  | .document | .undecodable | .store _ | .command _ => none
  | .emptyCommand => some "list index out of range"
  | .percent error => some error.message
  | .logField name => some ("Formatting field not found in record: " ++ Quoted.quoted name)
  | .logFormat format => some s!"Invalid format '{format}' for '%' style"
  | .noLogLevel name => some s!"module 'logging' has no attribute '{name}'"
  | .logLevelName literal => some ("Unknown level: " ++ literal)
  | .logLevelType literal => some ("Level not an integer or a valid string: " ++ literal)
  | .notNumeric type => some s!"int() argument must be a string, a bytes-like object or a real number, not '{type}'"
  | .recordLevelType => some "level must be an integer"
  | .remark text => some text

def summary (fault : Fault) : String :=
  match fault with
  | .store .taken => "File exists"
  | .store .notFound | .command .missing => "No such file or directory"
  | .store .isDirectory => "Is a directory"
  | .store .notDirectory => "Not a directory"
  | .store .nameTooLong => "File name too long"
  | .command .denied => "Permission denied"
  | .command .timedOut => "timed out"
  | .command .failed => "failed"
  | .document => "malformed document"
  | .undecodable => "not valid UTF-8"
  | fault => fault.message?.getD ""

end Fault

inductive Problem
  | general (message : String) (details : List (String × Value)) (cause : Option Fault)
  | configuration (message : String) (key : Option String) (value : Option Value) (path : Option String)
      (cause : Option Fault)
  | platform (message : String) (command : Option (List String)) (code : Option Int) (cause : Option Fault)
  | commandLine (message : String) (command : Option String) (arguments : Option (List String))
      (cause : Option Fault)
  | argument (message : String) (name value : Option String) (cause : Option Fault)

namespace Problem

def message : Problem → String
  | .general message .. | .configuration message .. | .platform message .. | .commandLine message ..
  | .argument message .. => message

def cause : Problem → Option Fault
  | .general _ _ cause | .configuration _ _ _ _ cause | .platform _ _ _ cause | .commandLine _ _ _ cause
  | .argument _ _ _ cause => cause

def filled (name : String) (text : Option String) : List (String × Value) :=
  match text with
  | some text => if text.isEmpty then [] else [(name, .text text)]
  | none => []

def present (name : String) (value : Option Value) : List (String × Value) :=
  match value with
  | none | some .null => []
  | some value => [(name, value)]

/-- The words of a list that is there and not empty, as one detail. -/
def joined (name : String) (words : Option (List String)) : List (String × Value) :=
  match words with
  | none | some [] => []
  | some words => [(name, .text (" ".intercalate words))]

def details : Problem → List (String × Value)
  | .general _ details _ => details
  | .configuration _ key value path _ =>
    filled "config_key" key ++ present "config_value" value ++ filled "config_path" path
  | .platform _ command code _ => joined "command" command ++ present "returncode" (code.map .int)
  | .commandLine _ command arguments _ => filled "command" command ++ joined "arguments" arguments
  | .argument _ name value _ => filled "argument" name ++ filled "value" value

def isOversized (problem : Problem) : Bool := problem.details.any (·.2.isOversized)

def detailText (detail : String × Value) : String := detail.1 ++ "=" ++ detail.2.display

/-- The message, followed by the details in parentheses if there are any. -/
def text (problem : Problem) : String :=
  if problem.details.isEmpty then problem.message
  else problem.message ++ " (" ++ ", ".intercalate (problem.details.map detailText) ++ ")"

end Problem

/-- Why something stopped: a fault by itself, a problem for the user, or the user's wish. -/
inductive Failure
  | fault (fault : Fault)
  | problem (problem : Problem)
  | interrupt

namespace Failure

def message? : Failure → Option String
  | .fault cause => cause.message?
  | .problem report => some report.text
  | .interrupt => none

end Failure
end TermStyle
