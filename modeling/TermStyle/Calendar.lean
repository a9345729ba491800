/-!
Days and points of time in the proleptic Gregorian calendar, years 1 to 9999, with an optional distance
from universal time. Only what exists can be built. -/

namespace TermStyle.Calendar

inductive Error
  | year (value : Nat)
  | month
  | day
  | hour
  | minute
  | second
  | offset (seconds : Int)
  deriving DecidableEq, Repr

structure Date where
  year : Nat
  month : Nat
  day : Nat
  deriving DecidableEq, Repr

/-- A point of time; `offset` is its distance from universal time in seconds, where known. -/
structure Moment where
  date : Date
  hour : Nat
  minute : Nat
  second : Nat
  microsecond : Nat
  offset : Option Int
  deriving DecidableEq, Repr

def isLeap (year : Nat) : Bool := year % 4 == 0 && (year % 100 != 0 || year % 400 == 0)

def daysIn (year month : Nat) : Nat :=
  if month == 2 then (if isLeap year then 29 else 28)
  else if month == 4 || month == 6 || month == 9 || month == 11 then 30
  else 31

def Date.make (year month day : Nat) : Except Error Date :=
  if year < 1 || 9999 < year then .error (.year year)
  else if month < 1 || 12 < month then .error .month
  else if day < 1 || daysIn year month < day then .error .day
  else .ok ⟨year, month, day⟩

/-- A distance from universal time is less than a day. -/
def checkOffset : Option Int → Except Error Unit
  | some seconds => if seconds.natAbs < 86400 then .ok () else .error (.offset seconds)
  | none => .ok ()

def Moment.make (year month day hour minute second microsecond : Nat) (offset : Option Int) : Except Error Moment := do
  checkOffset offset
  let date ← Date.make year month day
  if 23 < hour then throw .hour
  if 59 < minute then throw .minute
  if 59 < second then throw .second
  return ⟨date, hour, minute, second, microsecond, offset⟩

/-- The days of a year in front of a month. -/
def daysBefore (year month : Nat) : Nat :=
  (List.range (month - 1)).foldl (fun days past => days + daysIn year (past + 1)) 0

def Date.ordinal (d : Date) : Nat :=
  let past := d.year - 1
  past * 365 + past / 4 - past / 100 + past / 400 + daysBefore d.year d.month + d.day

def Moment.seconds (m : Moment) : Int :=
  86400 * m.date.ordinal + 3600 * m.hour + 60 * m.minute + m.second - m.offset.getD 0

/-- Whether two points of time are one. Those whose distance from universal time is known are compared there. -/
def Moment.isSame (a b : Moment) : Bool :=
  a.offset.isSome == b.offset.isSome && a.seconds == b.seconds && a.microsecond == b.microsecond

def padded (width n : Nat) : String :=
  let digits := toString n
  .ofList (List.replicate (width - digits.length) '0') ++ digits

/-- Whole days, rounded down, and the seconds left over. -/
def durationText (seconds : Int) : String :=
  let days := seconds / 86400
  let rest := seconds % 86400
  let parts := (if days == 0 then [] else [s!"days={days}"]) ++ (if rest == 0 then [] else [s!"seconds={rest}"])
  "datetime.timedelta(" ++ (if parts.isEmpty then "0" else ", ".intercalate parts) ++ ")"

def Error.message : Error → String
  | .year value => s!"year {value} is out of range"
  | .month => "month must be in 1..12"
  | .day => "day is out of range for month"
  | .hour => "hour must be in 0..23"
  | .minute => "minute must be in 0..59"
  | .second => "second must be in 0..59"
  | .offset seconds =>
    "offset must be a timedelta strictly between -timedelta(hours=24) and timedelta(hours=24), not " ++
      durationText seconds ++ "."

def Date.display (d : Date) : String := "-".intercalate [padded 4 d.year, padded 2 d.month, padded 2 d.day]

def Date.literal (d : Date) : String := s!"datetime.date({d.year}, {d.month}, {d.day})"

def offsetText (seconds : Int) : String :=
  let minutes := seconds.natAbs / 60
  (if seconds < 0 then "-" else "+") ++ padded 2 (minutes / 60) ++ ":" ++ padded 2 (minutes % 60)

def Moment.display (m : Moment) : String :=
  m.date.display ++ " " ++ ":".intercalate ([m.hour, m.minute, m.second].map (padded 2)) ++
    (if m.microsecond == 0 then "" else "." ++ padded 6 m.microsecond) ++
    (m.offset.map offsetText).getD ""

def zoneLiteral (seconds : Int) : String :=
  if seconds == 0 then "datetime.timezone.utc" else s!"datetime.timezone({durationText seconds})"

def Moment.literal (m : Moment) : String :=
  let clock := if m.microsecond != 0 then [m.second, m.microsecond] else if m.second != 0 then [m.second] else []
  let numbers := [m.date.year, m.date.month, m.date.day, m.hour, m.minute] ++ clock
  let zone := match m.offset with
    | some seconds => ["tzinfo=" ++ zoneLiteral seconds]
    | none => []
  "datetime.datetime(" ++ ", ".intercalate (numbers.map toString ++ zone) ++ ")"

end TermStyle.Calendar
