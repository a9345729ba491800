import TermStyle.Value
import TermStyle.Yaml.Scalar
import TermStyle.Yaml.Tag

/-!
Writing values as documents, with collections shown by indentation. A text is written plain if it reads
back as text, in single quotes if that does not hide what it holds, and in double quotes otherwise. Long
texts are broken at blanks behind column eighty. -/

namespace TermStyle.Yaml.Writer
open Text

/-! ## The page -/

/-- The text written so far, the column reached, and whether there is nothing but white space, or
indentation, behind what was written last. -/
structure Page where
  text : String
  column : Nat
  blank : Bool
  indented : Bool
  deriving DecidableEq, Repr

namespace Page

def start : Page := ⟨"", 0, true, true⟩

def put (page : Page) (piece : List Char) : Page :=
  { page with text := page.text ++ .ofList piece, column := page.column + piece.length }

def lineBreak (page : Page) (mark : Char) : Page := ⟨page.text.push mark, 0, true, true⟩

def toIndent (page : Page) (indent : Nat) : Page :=
  let page := if !page.indented || indent < page.column || (page.column == indent && !page.blank)
    then page.lineBreak '\n' else page
  if page.column < indent then { page.put (List.replicate (indent - page.column) ' ') with blank := true } else page

/-- Writes an indicator, behind a blank if it needs one. -/
def indicator (page : Page) (mark : Char) (spaced : Bool) (blank keeps : Bool) : Page :=
  let lead := if spaced && !page.blank then [' '] else []
  { page.put (lead ++ [mark]) with blank, indented := page.indented && keeps }

end Page

/-! ## Forms of text -/

structure Analysis where
  isEmpty : Bool
  hasBreak : Bool
  plain : Bool
  singleQuoted : Bool
  deriving DecidableEq, Repr

def leading : List Char := "#,[]\x7b\x7d&*!|>'\"%@`".toList

/-- Whether an indicator starts here that a plain text cannot hold. `first` is for the head of the text. -/
def isIndicator (first afterBlank : Bool) (c : Char) (beforeBlank : Bool) : Bool :=
  if first then leading.contains c || ((c == '?' || c == ':' || c == '-') && beforeBlank)
  else (c == ':' && beforeBlank) || (c == '#' && afterBlank)

def holdsIndicator : Bool → Bool → List Char → Bool
  | _, _, [] => false
  | first, afterBlank, c :: rest =>
    isIndicator first afterBlank c (endsWord (rest.head?.getD '\x00')) || holdsIndicator false (endsWord c) rest

def isPrinted (c : Char) : Bool := c == '\n' || (' ' ≤ c && c ≤ '~')

def isTextBreak (c : Char) : Bool := isBreak c && c != '\r'

def follows (before after : Char → Bool) : List Char → Bool
  | a :: b :: rest => (before a && after b) || follows before after (b :: rest)
  | _ => false

def isSpace (c : Char) : Bool := c == ' '

def analyze (text : List Char) : Analysis :=
  let special := !text.all isPrinted || follows isSpace isTextBreak text
  let hanging := follows isTextBreak isSpace text
  let edge := fun c => isSpace c || isTextBreak c
  let marked := "---".toList.isPrefixOf text || "...".toList.isPrefixOf text || holdsIndicator true true text
  { isEmpty := text.isEmpty
    hasBreak := text.any isTextBreak
    plain := !special && !hanging && !marked && !text.any isTextBreak && !text.head?.any edge && !text.getLast?.any edge
    singleQuoted := !special && !hanging }

inductive Style
  | plain
  | singleQuoted
  | doubleQuoted
  deriving DecidableEq, Repr

/-- The form for a text. A text by itself reads back plain only if it looks like nothing else. -/
def style (text : List Char) (readsBack inKey : Bool) : Style :=
  let found := analyze text
  if readsBack && found.plain && !(inKey && (found.isEmpty || found.hasBreak)) then .plain
  else if found.singleQuoted && !(inKey && found.hasBreak) then .singleQuoted
  else .doubleQuoted

def width : Nat := 80

/-! ## Writing text -/

/-- Cuts a text into runs of blanks, runs of line breaks and runs of anything else. -/
inductive Piece
  | spaces (count : Nat)
  | breaks (marks : List Char)
  | word (text : List Char)
  deriving DecidableEq, Repr

def pieces : List Char → List Piece
  | [] => []
  | c :: rest =>
    match pieces rest with
    | .spaces count :: more => if isSpace c then .spaces (count + 1) :: more else single c :: .spaces count :: more
    | .breaks marks :: more => if isTextBreak c then .breaks (c :: marks) :: more else single c :: .breaks marks :: more
    | .word text :: more =>
      if isSpace c || isTextBreak c then single c :: .word text :: more else .word (c :: text) :: more
    | [] => [single c]
where
  single (c : Char) : Piece := if isSpace c then .spaces 1 else if isTextBreak c then .breaks [c] else .word [c]

/-- Whether a single blank may become a line break. -/
def breaksHere (page : Page) (count : Nat) (splits : Bool) : Bool := splits && count == 1 && width < page.column

def plainPieces (indent : Nat) (splits : Bool) : List Piece → Page → Page
  | [], page => page
  | .spaces count :: more, page =>
    let page := if breaksHere page count splits then { page.toIndent indent with blank := false, indented := false }
      else page.put (List.replicate count ' ')
    plainPieces indent splits more page
  | .breaks _ :: more, page => plainPieces indent splits more page
  | .word text :: more, page => plainPieces indent splits more (page.put text)

def writePlain (text : List Char) (indent : Nat) (splits : Bool) (page : Page) : Page :=
  if text.isEmpty then page
  else
    let page := if page.blank then page else page.put [' ']
    plainPieces indent splits (pieces text) { page with blank := false, indented := false }

def doubled (text : List Char) : List Char := text.flatMap fun c => if c == '\'' then ['\'', '\''] else [c]

/-- Line breaks in a quoted text: one more than they stand for, if they start with a line feed. -/
def writeBreaks (marks : List Char) (page : Page) : Page :=
  let page := if marks.head? == some '\n' then page.lineBreak '\n' else page
  marks.foldl Page.lineBreak page

def singlePieces (indent : Nat) (splits first : Bool) : List Piece → Page → Page
  | [], page => page
  | .spaces count :: more, page =>
    let page := if breaksHere page count splits && !first && !more.isEmpty then page.toIndent indent
      else page.put (List.replicate count ' ')
    singlePieces indent splits false more page
  | .breaks marks :: more, page => singlePieces indent splits false more ((writeBreaks marks page).toIndent indent)
  | .word text :: more, page => singlePieces indent splits false more (page.put (doubled text))

def writeSingle (text : List Char) (indent : Nat) (splits : Bool) (page : Page) : Page :=
  (singlePieces indent splits true (pieces text) (page.indicator '\'' true false false)).indicator '\'' false false false

/-- The escapes a writer uses for characters that have a short one. -/
def shortEscapes : List (Nat × Char) := [
  (0, '0'), (7, 'a'), (8, 'b'), (9, 't'), (10, 'n'), (11, 'v'), (12, 'f'), (13, 'r'), (27, 'e'), (34, '"'),
  (92, '\\'), (0x85, 'N'), (0xa0, '_'), (0x2028, 'L'), (0x2029, 'P')]

def isBare (c : Char) : Bool := ' ' ≤ c && c ≤ '~' && c != '"' && c != '\\'

def capitalHex (width n : Nat) : List Char := (Quoted.hexDigits width n).map Char.toUpper

def escaped (c : Char) : List Char :=
  let n := c.toNat
  match shortEscapes.lookup n with
  | some mark => ['\\', mark]
  | none =>
    if n ≤ 0xff then '\\' :: 'x' :: capitalHex 2 n
    else if n ≤ 0xffff then '\\' :: 'u' :: capitalHex 4 n
    else '\\' :: 'U' :: capitalHex 8 n

/-- Goes through a double-quoted text; `run` holds what is still to be written, `index` is the position of
the next character and `length` that of the end. A line may be broken at a blank or behind an escape. -/
def doublePieces (indent : Nat) (splits : Bool) (length : Nat) : Nat → List Char → List Char → Page → Page
  | _, [], run, page => page.put run
  | index, c :: rest, run, page =>
    let (page, run) := if isBare c then (page, run) else ((page.put run).put (escaped c), [])
    let cuts := c == ' ' || run.isEmpty
    let fits := page.column + run.length ≤ if isBare c then width else width + 1
    if splits && cuts && 0 < index && index + 1 < length && !fits then
      let page := (page.put (run ++ ['\\'])).toIndent indent
      let page := { page with blank := false, indented := false }
      let next := if isBare c then c :: rest else rest
      let page := if next.head? == some ' ' then page.put ['\\'] else page
      doublePieces indent splits length (index + 1) rest (if isBare c then [c] else []) page
    else doublePieces indent splits length (index + 1) rest (if isBare c then run ++ [c] else run) page

def writeDouble (text : List Char) (indent : Nat) (splits : Bool) (page : Page) : Page :=
  (doublePieces indent splits text.length 0 text [] (page.indicator '"' true false false)).indicator '"' false false false

def writeScalar (text : String) (readsBack inKey : Bool) (indent : Nat) (page : Page) : Page :=
  let chars := text.toList
  match style chars readsBack inKey with
  | .plain => writePlain chars (indent + 2) (!inKey) page
  | .singleQuoted => writeSingle chars (indent + 2) (!inKey) page
  | .doubleQuoted => writeDouble chars (indent + 2) (!inKey) page

/-! ## Values -/

def floatText (value : Float) : String :=
  if value.isNaN then ".nan"
  else if value.isInf then (if value < 0 then "-.inf" else ".inf")
  else
    let text := (Decimal.Shortest.text value).toList
    if text.contains '.' then .ofList text
    else .ofList (text.flatMap fun c => if c == 'e' then ['.', '0', 'e'] else [c])

def scalar? : Value → Option (String × String)
  | .null => some ("null", Tag.null)
  | .bool value => some (if value then "true" else "false", Tag.bool)
  | .int value => some (toString value, Tag.int)
  | .float value => some (floatText value, Tag.float)
  | .text value => some (value, Tag.text)
  | .date value => some (value.display, Tag.timestamp)
  | .moment value => some (value.display, Tag.timestamp)
  | .bytes value => some (Value.bytesLiteral value, Tag.text)
  | .tuple _ | .list _ | .set _ | .dict _ | .cycle _ => none

/-- How long a key may be, its tag included, that stands before its colon on one line. -/
def keyLimit : Nat := 128

/-- The length of a tag in its short form. -/
def shortTagLength (tag : String) : Nat := 2 + tag.length - Tag.standard.length

def isSimpleKey (key : Value) : Bool :=
  match scalar? key with
  | some (text, tag) =>
    let found := analyze text.toList
    shortTagLength tag + text.length < keyLimit && !found.isEmpty && !found.hasBreak
  | none => false

def textOf? : Value → Option String
  | .text text => some text
  | _ => none

/-- Entries in the order of their keys, if all of them are texts. -/
def sorted (entries : List (Value × Value)) : List (Value × Value) :=
  if entries.all fun (key, _) => (textOf? key).isSome then
    entries.mergeSort fun a b => !((textOf? b.1).getD "" < (textOf? a.1).getD "" : Bool)
  else entries

def brackets (openMark closeMark : Char) (page : Page) : Page :=
  (page.indicator openMark true true false).indicator closeMark false false false

def writeKnown (value : Value) (inKey : Bool) (indent : Nat) (page : Page) : Page :=
  match scalar? value with
  | some (text, tag) => writeScalar text (Tag.ofPlain text == tag) inKey indent page
  | none => page

/-- Writes a value. `indent` is that of the collection around it; `inMapping` says whether it is a mapping. -/
def write : Nat → Value → Bool → Option Nat → Page → Page
  | 0, _, _, _, page => page
  | fuel + 1, value, inMapping, indent, page =>
    let inner := match indent with
      | none => 0
      | some indent => indent + 2
    match value with
    | .tuple [] | .list [] | .cycle false => brackets '[' ']' page
    | .dict [] | .set [] | .cycle true => brackets '{' '}' page
    | .tuple items | .list items =>
      let inner := if inMapping && !page.indented then indent.getD 0 else inner
      items.foldl (writeItem fuel inner) page
    | .dict entries => (sorted entries).foldl (writeEntry fuel inner) page
    | .set items => (sorted (items.map fun item => (item, .null))).foldl (writeEntry fuel inner) page
    | value => writeKnown value false (indent.getD 0) page
where
  writeItem (fuel indent : Nat) (page : Page) (item : Value) : Page :=
    write fuel item false (some indent) ((page.toIndent indent).indicator '-' true false true)
  writeEntry (fuel indent : Nat) (page : Page) (entry : Value × Value) : Page :=
    let (key, value) := entry
    let page := page.toIndent indent
    let page := if isSimpleKey key then (writeKnown key true indent page).indicator ':' false false false
      else
        let page := write fuel key true (some indent) (page.indicator '?' true false true)
        (page.toIndent indent).indicator ':' true false true
    write fuel value true (some indent) page

mutual
def height : Value → Nat
  | .tuple items | .list items | .set items => heights items + 1
  | .dict entries => entryHeights entries + 1
  | _ => 1

def heights : List Value → Nat
  | [] => 0
  | item :: items => max (height item) (heights items)

def entryHeights : List (Value × Value) → Nat
  | [] => 0
  | (key, value) :: entries => max (max (height key) (height value)) (entryHeights entries)
end

def document (value : Value) : String :=
  ((write (height value + 1) value false none .start).toIndent 0).text

end TermStyle.Yaml.Writer
