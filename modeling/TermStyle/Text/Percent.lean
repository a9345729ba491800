import TermStyle.Numeral
import TermStyle.Text.Percent.Number
import TermStyle.Whole

/-!
Percent templates: each directive starts with a percent sign, may name a field in parentheses, and ends
with the letter of its conversion. Fields come from a dictionary, everything else from a list, which has
to be used up. -/

namespace TermStyle.Text.Percent

inductive Error
  | incompleteKey
  | incomplete
  | unsupported (conversion : Char) (index : Nat)
  | noDictionary
  | missingField (name : String)
  | tooFew
  | tooMany
  | starType
  | widthSize
  | precisionSize
  | starWidthSize
  | starPrecisionSize
  | precisionRange
  | noSpace
  | realType (type : String)
  | realSize
  | infinite
  | notNumber
  | numberType (conversion : Char) (type : String)
  | integerType (conversion : Char) (type : String)
  | characterType
  | characterRange
  deriving DecidableEq, Repr

def Error.message : Error → String
  | .incompleteKey => "incomplete format key"
  | .incomplete => "incomplete format"
  | .unsupported conversion index =>
    let shown := if 31 ≤ conversion.toNat && conversion.toNat ≤ 126 then conversion else '?'
    let code := String.ofList (Nat.toDigits 16 conversion.toNat)
    s!"unsupported format character '{shown}' (0x{code}) at index {index}"
  | .noDictionary => "format requires a mapping"
  | .missingField name => Quoted.quoted name
  | .tooFew => "not enough arguments for format string"
  | .tooMany => "not all arguments converted during string formatting"
  | .starType => "* wants int"
  | .widthSize => "width too big"
  | .precisionSize => "precision too big"
  | .starWidthSize => "Python int too large to convert to C ssize_t"
  | .starPrecisionSize => "Python int too large to convert to C int"
  | .precisionRange => "precision too large"
  | .noSpace => ""
  | .realType type => s!"must be real number, not {type}"
  | .realSize => "int too large to convert to float"
  | .infinite => "cannot convert float infinity to integer"
  | .notNumber => "cannot convert float NaN to integer"
  | .numberType conversion type => s!"%{conversion} format: a real number is required, not {type}"
  | .integerType conversion type => s!"%{conversion} format: an integer is required, not {type}"
  | .characterType => "%c requires int or char"
  | .characterRange => "%c arg not in range(0x110000)"

/-- What directives take their values from. A dictionary first serves, whole, one directive that names no
field. A directive that names one puts that field in its place, and nothing has to be used up. -/
inductive Source
  | list (values : List Value)
  | dict (field? : String → Option Value) (whole : List Value)

def typeName : Value → String
  | .null => "NoneType"
  | .bool _ => "bool"
  | .int _ => "int"
  | .float _ => "float"
  | .text _ => "str"
  | .date _ => "datetime.date"
  | .moment _ => "datetime.datetime"
  | .bytes _ => "bytes"
  | .tuple _ => "tuple"
  | .set _ => "set"
  | .list _ | .cycle false => "list"
  | .dict _ | .cycle true => "dict"

def isAscii (c : Char) : Bool := c.toNat < 0x80

/-- The literal with everything outside the basic Latin block escaped. -/
def asciiLiteral (value : Value) : List Char :=
  value.literal.toList.flatMap fun c => if isAscii c then [c] else Quoted.numbered c

def character (d : Directive) : Value → Except Error (List Char)
  | .text string =>
    match string.toList with
    | [c] => .ok (d.pad [c])
    | _ => .error .characterType
  | value =>
    match Whole.number? value with
    | some code =>
      if 0 ≤ code && code < 0x110000 then .ok (d.pad [.ofNat code.toNat]) else .error .characterRange
    | none => .error .characterType

/-- From here on there is no space for the characters that a width or a precision asks for. -/
def spaceLimit : Nat := 0x40000000

/-- A few of the largest precisions are refused before a whole number is written. -/
def wholePrecisions : Nat := 0x7ffffffd

def integer (d : Directive) (number : Int) : Except Error (List Char) :=
  let precision := d.precision.getD 0
  if wholePrecisions ≤ precision then .error .precisionRange
  else if spaceLimit ≤ precision then .error .noSpace
  else .ok (d.integer number)

def wholePart (d : Directive) : Value → Except Error (List Char)
  | .float number =>
    if number.isNaN then .error .notNumber
    else if number.isInf then .error .infinite
    else integer d (Decimal.Rounding.truncated number)
  | value =>
    match Whole.number? value with
    | some number => integer d number
    | none => .error (.numberType d.conversion (typeName value))

def bits (d : Directive) (value : Value) : Except Error (List Char) :=
  match Whole.number? value with
  | some number => integer d number
  | none => .error (.integerType d.conversion (typeName value))

/-- Whether a directive writes as many digits as its precision says. -/
def writesPlaces (d : Directive) : Bool :=
  if "fF".toList.contains d.conversion then true
  else if "eE".toList.contains d.conversion then d.precision != some Directive.lastPrecision
  else d.flags.alternate

def double (d : Directive) (number : Float) : Except Error (List Char) :=
  if spaceLimit ≤ d.precision.getD 0 && writesPlaces d && !number.isNaN && !number.isInf then .error .noSpace
  else .ok (d.real number)

def real (d : Directive) : Value → Except Error (List Char)
  | .float number => double d number
  | value =>
    match Whole.number? value with
    | some number =>
      let nearest := Decimal.Rounding.ofInt number
      if nearest.isInf then .error .realSize else double d nearest
    | none => .error (.realType (typeName value))

/-- What a directive writes for a value; nothing for an unknown conversion. -/
def convert? (d : Directive) (value : Value) : Option (Except Error (List Char)) :=
  let text := fun body : List Char => d.pad (body.take (d.precision.getD body.length))
  if d.conversion == 's' then some (.ok (text value.display.toList))
  else if d.conversion == 'r' then some (.ok (text value.literal.toList))
  else if d.conversion == 'a' then some (.ok (text (asciiLiteral value)))
  else if d.conversion == 'c' then some (character d value)
  else if "diu".toList.contains d.conversion then some (wholePart d value)
  else if "oxX".toList.contains d.conversion then some (bits d value)
  else if "eEfFgG".toList.contains d.conversion then some (real d value)
  else none

def flags : List Char → Flags → Flags × List Char
  | '-' :: rest, known => flags rest { known with left := true }
  | '+' :: rest, known => flags rest { known with plus := true }
  | ' ' :: rest, known => flags rest { known with space := true }
  | '#' :: rest, known => flags rest { known with alternate := true }
  | '0' :: rest, known => flags rest { known with zeros := true }
  | rest, known => (known, rest)

/-- A field name may hold balanced parentheses; `depth` counts those that are open. -/
def fieldName : Nat → List Char → Option (List Char × List Char)
  | _, [] => none
  | 0, ')' :: rest => some ([], rest)
  | depth + 1, ')' :: rest => (fieldName depth rest).map fun (name, after) => (')' :: name, after)
  | depth, '(' :: rest => (fieldName (depth + 1) rest).map fun (name, after) => ('(' :: name, after)
  | depth, c :: rest => (fieldName depth rest).map fun (name, after) => (c :: name, after)

def take : List Value → Except Error (Value × List Value)
  | [] => .error .tooFew
  | value :: values => .ok (value, values)

/-- What to do with counts that are too large to be used. -/
structure Limit where
  bound : Nat
  digits : Error
  star : Error

def widthLimit : Limit := ⟨0x8000000000000000, .widthSize, .starWidthSize⟩
def precisionLimit : Limit := ⟨0x80000000, .precisionSize, .starPrecisionSize⟩

/-- A count given by digits, or by a star and the next value. Without either there is none. -/
def count (limit : Limit) (text : List Char) (values : List Value) :
    Except Error (Option Int × List Char × List Value) :=
  match text with
  | '*' :: rest => do
    let (value, values) ← take values
    match Whole.number? value with
    | some number =>
      if -(limit.bound : Int) ≤ number && number < limit.bound then return (some number, rest, values)
      throw limit.star
    | none => throw .starType
  | text =>
    let digits := text.takeWhile Digit.isAsciiDigit
    let number := Numeral.ofDigits 10 (digits.filterMap Digit.value?)
    if digits.isEmpty then .ok (none, text, values)
    else if number < limit.bound then .ok (some number, text.drop digits.length, values)
    else .error limit.digits

/-- A directive reaches from behind its percent sign to its conversion. The value it takes is converted
there; a named field is put in place of all values. `index` is the position of its first character. -/
def directive (index : Nat) (text : List Char) (field? : Option (String → Option Value)) (values : List Value) :
    Except Error (List Char × List Char × List Value) := do
  let (values, body) ← match text with
    | '(' :: body =>
      match field? with
      | none => throw .noDictionary
      | some field? =>
        match fieldName 0 body with
        | none => throw .incompleteKey
        | some (name, after) =>
          match field? (.ofList name) with
          | some value => pure ([value], after)
          | none => throw (.missingField (.ofList name))
    | body => pure (values, body)
  let (known, body) := flags body .none
  let (width, body, values) ← count widthLimit body values
  let known := if width.any (· < 0) then { known with left := true } else known
  let (precision, body, values) ← match body with
    | '.' :: tail => do
      let (precision, tail, values) ← count precisionLimit tail values
      pure (some (precision.getD 0).toNat, tail, values)
    | tail => pure (none, tail, values)
  let body := match body with
    | mark :: tail => if mark == 'h' || mark == 'l' || mark == 'L' then tail else mark :: tail
    | [] => []
  match body with
  | [] => throw .incomplete
  | conversion :: after =>
    let (value, values) ← take values
    let width := (width.getD 0).natAbs
    let fits : Bool := width < spaceLimit || width = widthLimit.bound
    match convert? ⟨known, if width < spaceLimit then width else 0, precision, conversion⟩ value with
    | some image =>
      let image ← image
      if fits then return (image, after, values)
      throw .noSpace
    | none => throw (.unsupported conversion (index + (text.length - after.length) - 1))

/-- Expands a template; `index` is the position of its head in the whole, `fuel` at least its length. -/
def expand : Nat → Nat → List Char → Option (String → Option Value) → List Value →
    Except Error (List Char × List Value)
  | 0, _, _, _, values => .ok ([], values)
  | _ + 1, _, [], _, values => .ok ([], values)
  | fuel + 1, index, '%' :: '%' :: rest, field?, values => do
    let (tail, values) ← expand fuel (index + 2) rest field? values
    return ('%' :: tail, values)
  | fuel + 1, index, '%' :: rest, field?, values => do
    let (image, after, values) ← directive (index + 1) rest field? values
    let (tail, values) ← expand fuel (index + 1 + (rest.length - after.length)) after field? values
    return (image ++ tail, values)
  | fuel + 1, index, c :: rest, field?, values => do
    let (tail, values) ← expand fuel (index + 1) rest field? values
    return (c :: tail, values)

def format (template : String) (source : Source) : Except Error String := do
  let text := template.toList
  match source with
  | .list values =>
    let (image, left) ← expand (text.length + 1) 0 text none values
    if !left.isEmpty then throw .tooMany
    return .ofList image
  | .dict field? whole =>
    let (image, _) ← expand (text.length + 1) 0 text (some field?) whole
    return .ofList image

end TermStyle.Text.Percent
