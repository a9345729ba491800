import TermStyle.Text.Digit

/-!
Tags say what a node is. A plain scalar without one gets its tag from the form of its text. -/

namespace TermStyle.Yaml.Tag
open Text

def standard : String := "tag:yaml.org,2002:"

def null : String := standard ++ "null"
def bool : String := standard ++ "bool"
def int : String := standard ++ "int"
def float : String := standard ++ "float"
def text : String := standard ++ "str"
def binary : String := standard ++ "binary"
def timestamp : String := standard ++ "timestamp"
def sequence : String := standard ++ "seq"
def mapping : String := standard ++ "map"
def set : String := standard ++ "set"
def orderedMapping : String := standard ++ "omap"
def pairs : String := standard ++ "pairs"
def merge : String := standard ++ "merge"
def defaultValue : String := standard ++ "value"

def truths : List String := ["yes", "Yes", "YES", "true", "True", "TRUE", "on", "On", "ON"]
def falsehoods : List String := ["no", "No", "NO", "false", "False", "FALSE", "off", "Off", "OFF"]
def nulls : List String := ["", "~", "null", "Null", "NULL"]

def isDigit (c : Char) : Bool := Digit.isAsciiDigit c
def isSpaced (c : Char) : Bool := isDigit c || c == '_'

def unsigned : List Char → List Char
  | '-' :: rest | '+' :: rest => rest
  | rest => rest

def number? (text : List Char) : Option (List Char) :=
  match text with
  | c :: rest => if isDigit c then some (rest.dropWhile isSpaced) else none
  | [] => none

/-- Base-sixty places, each behind a colon: one digit, or two that stay below sixty. -/
def sixties? : Nat → List Char → Option (List Char)
  | fuel + 1, ':' :: first :: second :: rest =>
    if isDigit first && isDigit second then
      if first ≤ '5' then some ((sixties? fuel rest).getD rest) else none
    else if isDigit first then some ((sixties? fuel (second :: rest)).getD (second :: rest))
    else none
  | _, [':', first] => if isDigit first then some [] else none
  | _, _ => none

def isInt (text : List Char) : Bool :=
  match unsigned text with
  | ['0'] => true
  | '0' :: 'b' :: digits => !digits.isEmpty && digits.all fun c => c == '0' || c == '1' || c == '_'
  | '0' :: 'x' :: digits => !digits.isEmpty && digits.all fun c =>
      isSpaced c || ('a' ≤ c && c ≤ 'f') || ('A' ≤ c && c ≤ 'F')
  | '0' :: digits => digits.all fun c => ('0' ≤ c && c ≤ '7') || c == '_'
  | body =>
    match number? body with
    | none => false
    | some [] => true
    | some rest => sixties? rest.length rest == some []

/-- An exponent has a sign; there may be none. -/
def isExponent : List Char → Bool
  | [] => true
  | mark :: sign :: digits =>
    (mark == 'e' || mark == 'E') && (sign == '+' || sign == '-') && !digits.isEmpty && digits.all isDigit
  | _ => false

def infinities : List String := [".inf", ".Inf", ".INF"]
def notNumbers : List String := [".nan", ".NaN", ".NAN"]

def isFloat (text : List Char) : Bool :=
  notNumbers.contains (.ofList text) || infinities.contains (.ofList (unsigned text)) ||
    match text with
    | '.' :: body => (number? body).any isExponent
    | _ =>
      match number? (unsigned text) with
      | none => false
      | some ('.' :: rest) => isExponent (rest.dropWhile isSpaced)
      | some rest =>
        match sixties? rest.length rest with
        | some ('.' :: fraction) => fraction.all isSpaced
        | _ => false

def digits? (least most : Nat) (text : List Char) : Option (List Char × List Char) :=
  let run := (text.take most).takeWhile isDigit
  if run.length < least then none else some (run, text.drop run.length)

def skip? (expected : Char) : List Char → Option (List Char)
  | [] => none
  | c :: rest => if c == expected then some rest else none

/-- The parts of a point of time as they are written. -/
structure Stamp where
  year : List Char
  month : List Char
  day : List Char
  clock : Option (List Char × List Char × List Char)
  fraction : List Char
  /-- Whether a time zone is given, and its sign, hours and minutes if it is not universal time. -/
  zone : Option (Option (Bool × List Char × List Char))

def isPause (c : Char) : Bool := c == ' ' || c == '\t'

def zone? (text : List Char) : Option (Option (Option (Bool × List Char × List Char))) :=
  match text.dropWhile isPause with
  | [] => if text.isEmpty then some none else none
  | ['Z'] => some (some none)
  | sign :: rest =>
    if sign == '+' || sign == '-' then do
      let (hours, rest) ← digits? 1 2 rest
      match rest with
      | [] => some (some (some (sign == '-', hours, [])))
      | ':' :: minutes =>
        match ← digits? 2 2 minutes with
        | (minutes, []) => some (some (some (sign == '-', hours, minutes)))
        | _ => none
      | _ => none
    else none

/-- What follows a date: a mark or blanks, and the time of day. -/
def afterDate? : List Char → Option (List Char)
  | 'T' :: rest | 't' :: rest => some rest
  | c :: rest => if isPause c then some (rest.dropWhile isPause) else none
  | [] => none

def stamp? (text : List Char) : Option Stamp := do
  let (year, rest) ← digits? 4 4 text
  let (month, rest) ← digits? 1 2 (← skip? '-' rest)
  let (day, rest) ← digits? 1 2 (← skip? '-' rest)
  if rest.isEmpty then return ⟨year, month, day, none, [], none⟩
  let (hour, rest) ← digits? 1 2 (← afterDate? rest)
  let (minute, rest) ← digits? 2 2 (← skip? ':' rest)
  let (second, rest) ← digits? 2 2 (← skip? ':' rest)
  let (fraction, rest) := match rest with
    | '.' :: tail => (tail.takeWhile isDigit, tail.dropWhile isDigit)
    | tail => ([], tail)
  return ⟨year, month, day, some (hour, minute, second), fraction, ← zone? rest⟩

/-- A date by itself has two digits for month and day. -/
def isStamp (text : List Char) : Bool :=
  match stamp? text with
  | some stamp => stamp.clock.isSome || (stamp.month.length == 2 && stamp.day.length == 2)
  | none => false

/-- The form of a text does not depend on one line feed at its end. -/
def trimmed (text : List Char) : List Char :=
  if text.getLast? == some '\n' && text.length != 1 then text.dropLast else text

def ofPlain (content : String) : String :=
  let chars := trimmed content.toList
  let word := String.ofList chars
  if truths.contains word || falsehoods.contains word then bool
  else if isFloat chars then float
  else if isInt chars then int
  else if word == "<<" then merge
  else if nulls.contains word then null
  else if isStamp chars then timestamp
  else if word == "=" then defaultValue
  else if word == "!" || word == "&" || word == "*" then standard ++ "yaml"
  else text

end TermStyle.Yaml.Tag
