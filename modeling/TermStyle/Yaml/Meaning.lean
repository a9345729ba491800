import TermStyle.Decimal.Reading
import TermStyle.Text.CaseMap
import TermStyle.Yaml.Graph

/-!
The values that the texts of scalars stand for, by their tags. -/

namespace TermStyle.Yaml.Scalar
open Text

def withoutSpacers (text : String) : List Char := text.toList.filter (· != '_')

def signed (text : List Char) : Except Fault (Bool × List Char) :=
  match text with
  | [] => .error .emptyScalar
  | '-' :: rest => .ok (true, rest)
  | '+' :: rest => .ok (false, rest)
  | rest => .ok (false, rest)

def places : List Char → List (List Char)
  | [] => [[]]
  | c :: rest =>
    match places rest with
    | [] => [[c]]
    | place :: more => if c == ':' then [] :: place :: more else (c :: place) :: more

def readIn (base : Nat) (digits : List Char) : Except Fault Int :=
  (Numeral.readIn base (.ofList digits)).mapError .numeral

def magnitude (body : List Char) : Except Fault Int :=
  match body with
  | ['0'] => .ok 0
  | '0' :: 'b' :: digits => readIn 2 digits
  | '0' :: 'x' :: digits => readIn 16 digits
  | '0' :: _ => readIn 8 body
  | [] => .error .emptyScalar
  | _ =>
    if body.contains ':' then do
      let values ← (places body).mapM (readIn 10)
      return values.foldl (fun total value => total * 60 + value) 0
    else readIn 10 body

def int (text : String) : Except Fault Value := do
  let (negative, body) ← signed (withoutSpacers text)
  let value ← magnitude body
  return .int (if negative then -value else value)

def decimal (text : List Char) : Except Fault Float :=
  match Decimal.Reading.read? (.ofList text) with
  | some value => .ok value
  | none => .error (.decimal (.ofList text))

/-- The last place counts once, the one before it sixty times, and so on. What a place counts is a whole
number, which is rounded only when it is used. -/
def sixties (total : Float) (count : Nat) : List Float → Except Fault Float
  | [] => .ok total
  | place :: more =>
    let weight := Decimal.Rounding.ofInt count
    if weight.isInf then .error .wholeSize else sixties (total + place * weight) (count * 60) more

def size (body : List Char) : Except Fault Float :=
  if body == ".inf".toList then .ok (1 / 0)
  else if body.contains ':' then do
    let values ← (places body).mapM decimal
    sixties 0 1 values.reverse
  else decimal body

def float (text : String) : Except Fault Value := do
  let (negative, body) ← signed (CaseMap.lower (.ofList (withoutSpacers text))).toList
  if body == ".nan".toList then return .float (0 / 0)
  let value ← size body
  return .float (if negative then -value else value)

def bool (text : String) : Except Fault Value :=
  let word := CaseMap.lower text
  if Tag.truths.contains word then .ok (.bool true)
  else if Tag.falsehoods.contains word then .ok (.bool false)
  else .error (.unknownWord word)

def natural (digits : List Char) : Nat := Numeral.ofDigits 10 (digits.filterMap Digit.value?)

def millionths (digits : List Char) : Nat := natural ((digits ++ List.replicate 6 '0').take 6)

def offset (zone : Bool × List Char × List Char) : Int :=
  let (negative, hours, minutes) := zone
  let seconds : Int := 3600 * natural hours + 60 * natural minutes
  if negative then -seconds else seconds

def timestamp (text : String) : Except Fault Value :=
  match Tag.stamp? (Tag.trimmed text.toList) with
  | none => .error .notTimestamp
  | some stamp =>
    let year := natural stamp.year
    let month := natural stamp.month
    let day := natural stamp.day
    match stamp.clock with
    | none => ((Calendar.Date.make year month day).mapError .calendar).map .date
    | some (hour, minute, second) =>
      let zone := stamp.zone.map fun zone => (zone.map offset).getD 0
      let made := Calendar.Moment.make year month day (natural hour) (natural minute) (natural second)
        (millionths stamp.fraction) zone
      (made.mapError .calendar).map .moment

def sextet? (c : Char) : Option Nat :=
  if 'A' ≤ c && c ≤ 'Z' then some (c.toNat - 65)
  else if 'a' ≤ c && c ≤ 'z' then some (c.toNat - 71)
  else if '0' ≤ c && c ≤ '9' then some (c.toNat + 4)
  else if c == '+' then some 62
  else if c == '/' then some 63
  else none

/-- Reads groups of four sextets, passing over what is neither a sextet nor padding. `held` sextets are in
`bits`; padding that completes a group ends the text. -/
def unpack : List Char → Nat → Nat → Nat → List UInt8 → Option (List UInt8)
  | [], held, _, _, bytes => if held == 0 then some bytes else none
  | c :: rest, held, bits, padding, bytes =>
    if c == '=' then
      if held ≥ 2 && held + padding + 1 ≥ 4 then some bytes else unpack rest held bits (padding + 1) bytes
    else match sextet? c with
      | none => unpack rest held bits padding bytes
      | some sextet =>
        let bits := bits * 64 + sextet
        match held with
        | 0 => unpack rest 1 bits 0 bytes
        | 1 => unpack rest 2 (bits % 16) 0 (bytes ++ [(bits / 16).toUInt8])
        | 2 => unpack rest 3 (bits % 4) 0 (bytes ++ [(bits / 4).toUInt8])
        | _ => unpack rest 0 0 0 (bytes ++ [bits.toUInt8])

def binary (text : String) : Except Fault Value :=
  if text.toList.any fun c => 0x80 ≤ c.toNat then .error .document
  else match unpack text.toList 0 0 0 [] with
    | some bytes => .ok (.bytes bytes)
    | none => .error .document

def readers : List (String × (String → Except Fault Value)) := [
  (Tag.null, fun _ => .ok .null), (Tag.bool, bool), (Tag.int, int), (Tag.float, float),
  (Tag.binary, binary), (Tag.timestamp, timestamp), (Tag.text, fun text => .ok (.text text))]

end TermStyle.Yaml.Scalar
