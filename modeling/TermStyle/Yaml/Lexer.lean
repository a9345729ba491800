import TermStyle.Yaml.Scalar
import TermStyle.Yaml.Token

/-!
Cutting a document into tokens, which are made when they are asked for. Whether a scalar is a key is known
only at the colon behind it, so places where a key may have started are remembered, one for each level of
brackets, and the token that marks the key is put in front afterwards. Until that is settled no token from
there on is handed out. A key stands on one line and is not longer than 1024 characters. -/

namespace TermStyle.Yaml

/-- A place where a key may have started: the number of its first token, and whether a colon has to come. -/
structure Lexer.Candidate where
  number : Nat
  required : Bool
  index : Nat
  line : Nat
  column : Nat

structure Lexer where
  cursor : Cursor
  /-- How many brackets are open. -/
  depth : Nat
  /-- The column of the innermost collection that is kept together by indentation. -/
  indent : Int
  outer : List Int
  keyAllowed : Bool
  candidates : List (Nat × Lexer.Candidate)
  /-- The tokens that nobody took yet. -/
  queue : List Token
  /-- How many tokens were taken. -/
  taken : Nat
  /-- Whether the last token is made. -/
  ended : Bool

/-- A step of the making of tokens. -/
abbrev Lexing := StateT Lexer (Except Fault)

namespace Lexer

def start (source : Source) : Lexer := ⟨.start source, 0, -1, [], true, [], [], 0, false⟩

def scan (step : Scan α) : Lexing α := do
  let lexer ← get
  let (found, cursor) ← (step.run lexer.cursor : Except Fault (α × Cursor))
  set { lexer with cursor }
  return found

instance : MonadLift Scan Lexing := ⟨scan⟩

def push (token : Token) : Lexing Unit := modify fun lexer => { lexer with queue := lexer.queue ++ [token] }

/-- Puts a token in front of the one that has a number. -/
def insert (number : Nat) (token : Token) : Lexing Unit :=
  modify fun lexer => { lexer with queue := lexer.queue.insertIdx (number - lexer.taken) token }

def count (lexer : Lexer) : Nat := lexer.taken + lexer.queue.length

def inFlow (lexer : Lexer) : Bool := lexer.depth != 0

def column (lexer : Lexer) : Int := lexer.cursor.column

def allowKey (allowed : Bool) : Lexing Unit := modify ({ · with keyAllowed := allowed })

def keyLimit : Nat := 1024

def isStale (lexer : Lexer) (candidate : Candidate) : Bool :=
  candidate.line != lexer.cursor.line || keyLimit < lexer.cursor.index - candidate.index

/-- Drops the places that no colon can belong to any more. -/
def dropStale : Lexing Unit := do
  let lexer ← get
  if lexer.candidates.any fun (_, candidate) => lexer.isStale candidate && candidate.required then throw .document
  set { lexer with candidates := lexer.candidates.filter fun (_, candidate) => !lexer.isStale candidate }

def forget (lexer : Lexer) : Lexer := { lexer with candidates := lexer.candidates.filter (·.1 != lexer.depth) }

def dropCandidate : Lexing Unit := do
  let lexer ← get
  if (lexer.candidates.lookup lexer.depth).any (·.required) then throw .document
  set lexer.forget

def saveCandidate : Lexing Unit := do
  if !(← get).keyAllowed then return
  dropCandidate
  modify fun lexer =>
    let cursor := lexer.cursor
    let required := !lexer.inFlow && lexer.indent == lexer.column
    let candidate := ⟨lexer.count, required, cursor.index, cursor.line, cursor.column⟩
    { lexer with candidates := (lexer.depth, candidate) :: lexer.candidates }

def unwindFrom (column : Int) : List Int → Int → List Token → Int × List Int × List Token
  | [], indent, queue => (indent, [], queue)
  | next :: outer, indent, queue =>
    if column < indent then unwindFrom column outer next (queue ++ [.blockEnd]) else (indent, next :: outer, queue)

def unwind (column : Int) : Lexing Unit := modify fun lexer =>
  if lexer.inFlow then lexer
  else
    let (indent, outer, queue) := unwindFrom column lexer.outer lexer.indent lexer.queue
    { lexer with indent, outer, queue }

/-- Opens a collection at a column unless one is open there, with its token in front of the one that has a number. -/
def openBlock (column : Int) (number : Nat) (token : Token) : Lexing Unit := do
  let lexer ← get
  if lexer.indent < column then
    set { lexer with indent := column, outer := lexer.indent :: lexer.outer }
    insert number token

def take (length : Nat) (token : Token) : Lexing Unit := do
  Scan.advance length
  push token

/-! ## Names and tags -/

def isNameChar (c : Char) : Bool := (c.isAlphanum && c.toNat < 0x80) || c == '-' || c == '_'

def isAddressChar (c : Char) : Bool := isNameChar c || ";/?:@&=+$,.!~*'()[]%".toList.contains c

def name : Scan String := do
  let text ← Scan.takeWhile isNameChar
  if text.isEmpty then throw .document
  return .ofList text

def addressBytes : Nat → List UInt8 → Scan (List UInt8)
  | 0, bytes => return bytes
  | fuel + 1, bytes => do
    if (← Scan.peek) != '%' then return bytes
    Scan.advance 1
    let digits ← Scalar.hexDigits 2
    Scan.advance 2
    addressBytes fuel (bytes ++ [(Scalar.hexNumber digits).toUInt8])

/-- The address that a tag stands for, with its escapes read. -/
def addressFrom : Nat → String → Scan String
  | 0, text => return text
  | fuel + 1, text => do
    let text := text ++ .ofList (← Scan.takeWhile fun c => isAddressChar c && c != '%')
    if (← Scan.peek) != '%' then return text
    match String.fromUTF8? (← addressBytes (← Scan.fuel) []).toByteArray with
    | some image => addressFrom fuel (text ++ image)
    | none => throw .document

def address : Scan String := do
  if !isAddressChar (← Scan.peek) then throw .document
  addressFrom (← Scan.fuel) ""

def handle : Scan String := do
  if (← Scan.peek) != '!' then throw .document
  let next ← Scan.peekAt 1
  Scan.advance 1
  if next == ' ' then return "!"
  let text ← Scan.takeWhile isNameChar
  if (← Scan.peek) != '!' then throw .document
  Scan.advance 1
  return "!" ++ .ofList text ++ "!"

def hasHandle : Scan Bool := do
  let length := ((← get).rest.drop 1 |>.takeWhile fun c => !endsField c && c != '!').length
  return (← Scan.peekAt (length + 1)) == '!'

def tag : Scan Token := do
  let next ← Scan.peekAt 1
  let token ←
    if next == '<' then do
      Scan.advance 2
      let suffix ← address
      if (← Scan.peek) != '>' then throw .document
      Scan.advance 1
      pure (Token.tag none suffix)
    else if endsWord next then do
      Scan.advance 1
      pure (.tag none "!")
    else do
      let lead ← if ← hasHandle then handle else (do Scan.advance 1; return "!")
      pure (.tag (some lead) (← address))
  if !endsField (← Scan.peek) then throw .document
  return token

def reference (make : String → Token) : Scan Token := do
  Scan.advance 1
  let text ← name
  let c ← Scan.peek
  if !endsWord c && !"?:,]\x7d%@`".toList.contains c then throw .document
  return make text

/-! ## Directives -/

def number : Scan Int := do
  let digits ← Scan.takeWhile Text.Digit.isAsciiDigit
  if digits.isEmpty then throw .document
  match Numeral.read (.ofList digits) with
  | .ok value => return value
  | .error error => throw (.numeral error)

def versionDirective : Scan Token := do
  Scan.skipSpaces
  let major ← number
  if (← Scan.peek) != '.' then throw .document
  Scan.advance 1
  discard number
  if !endsField (← Scan.peek) then throw .document
  return .version major

def tagDirective : Scan Token := do
  Scan.skipSpaces
  let lead ← handle
  if (← Scan.peek) != ' ' then throw .document
  Scan.skipSpaces
  let text ← address
  if !endsField (← Scan.peek) then throw .document
  return .tagHandle lead text

def directive : Scan Token := do
  Scan.advance 1
  let word ← name
  if !endsField (← Scan.peek) then throw .document
  let token ←
    if word = "YAML" then versionDirective
    else if word = "TAG" then tagDirective
    else do
      Scan.skipWhile (!endsLine ·)
      pure .otherDirective
  Scan.ignoredLine
  return token

/-! ## Tokens -/

/-- Ends all collections before something that belongs to the whole stream. -/
def toMargin : Lexing Unit := do
  unwind (-1)
  dropCandidate
  allowKey false

def streamEnd : Lexing Unit := do
  toMargin
  modify ({ · with candidates := [], ended := true })
  push .streamEnd

def marker (token : Token) : Lexing Unit := do
  toMargin
  take 3 token

def openFlow (token : Token) : Lexing Unit := do
  saveCandidate
  modify fun lexer => { lexer with depth := lexer.depth + 1, keyAllowed := true }
  take 1 token

def closeFlow (token : Token) : Lexing Unit := do
  dropCandidate
  modify fun lexer => { lexer with depth := lexer.depth - 1, keyAllowed := false }
  take 1 token

def flowEntry : Lexing Unit := do
  allowKey true
  dropCandidate
  take 1 .flowEntry

/-- Outside brackets an indicator needs a place where a key may start, and may open a collection. -/
def indicated (collection : Token) : Lexing Unit := do
  let lexer ← get
  if lexer.inFlow then return
  if !lexer.keyAllowed then throw .document
  openBlock lexer.column lexer.count collection

def blockEntry : Lexing Unit := do
  indicated .blockSequenceStart
  allowKey true
  dropCandidate
  take 1 .blockEntry

def explicitKey : Lexing Unit := do
  indicated .blockMappingStart
  allowKey !(← get).inFlow
  dropCandidate
  take 1 .key

/-- At a colon, the place remembered on this level turns out to start a key. -/
def value : Lexing Unit := do
  let lexer ← get
  match lexer.candidates.lookup lexer.depth with
  | some candidate =>
    set lexer.forget
    insert candidate.number .key
    if !lexer.inFlow then openBlock candidate.column candidate.number .blockMappingStart
    allowKey false
  | none =>
    indicated .blockMappingStart
    allowKey !lexer.inFlow
    dropCandidate
  take 1 .value

/-- Reads something that may be a key and that no key follows directly. -/
def keyLike (read : Scan Token) : Lexing Unit := do
  saveCandidate
  allowKey false
  push (← read)

def quoted (double : Bool) : Lexing Unit := keyLike do return .scalar (.ofList (← Scalar.quoted double)) false

def plain : Lexing Unit := do
  saveCandidate
  let lexer ← get
  let found ← Scalar.plain lexer.inFlow (lexer.indent + 1)
  allowKey found.lineStart
  push (.scalar (.ofList found.text) true)

def block (folds : Bool) : Lexing Unit := do
  allowKey true
  dropCandidate
  let text ← Scalar.block folds (← get).indent
  push (.scalar (.ofList text) false)

def directiveLine : Lexing Unit := do
  toMargin
  push (← directive)

def indicators : List Char := "-?:,[]\x7b\x7d#&*!|>'\"%@`".toList

/-- Whether a word ends behind the character that stands here. -/
def standsAlone : Scan Bool := return endsWord (← Scan.peekAt 1)

/-- Whether an indicator stands here that needs a blank behind it outside brackets. -/
def indicates (inFlow : Bool) : Scan Bool := if inFlow then return true else standsAlone

/-- Looks further only if there is a reason to. -/
def asking (reason : Bool) (test : Scan Bool) : Scan Bool := if reason then test else return false

/-- Whether a plain scalar may start with a character that stands here. -/
def startsPlain (inFlow : Bool) (c : Char) : Scan Bool := do
  if !endsWord c && !indicators.contains c then return true
  return !(← standsAlone) && (c == '-' || (!inFlow && (c == '?' || c == ':')))

/-- Skips blanks, comments and line breaks, and tells whether there were line breaks. -/
def skipLines : Nat → Bool → Scan Bool
  | 0, fresh => return fresh
  | fuel + 1, fresh => do
    Scan.skipSpaces
    Scan.skipComment
    match ← Scan.lineBreak with
    | some _ => skipLines fuel true
    | none => return fresh

def skip : Lexing Unit := do
  if (← get).cursor.index = 0 && (← Scan.peek) == byteOrderMark then Scan.advance 1
  let fresh ← skipLines (← Scan.fuel) false
  modify fun lexer => { lexer with keyAllowed := lexer.keyAllowed || (fresh && !lexer.inFlow) }

def advance : Lexing Unit := do
  skip
  dropStale
  unwind (← get).column
  let inFlow := (← get).inFlow
  let atMargin := (← get).column == 0
  let c ← Scan.peek
  if c == '\x00' then streamEnd
  else if c == '%' && atMargin then directiveLine
  else if ← asking (c == '-' && atMargin) (Scan.marks ['-']) then marker .documentStart
  else if ← asking (c == '.' && atMargin) (Scan.marks ['.']) then marker .documentEnd
  else if c == '[' then openFlow .flowSequenceStart
  else if c == '{' then openFlow .flowMappingStart
  else if c == ']' then closeFlow .flowSequenceEnd
  else if c == '}' then closeFlow .flowMappingEnd
  else if c == ',' then flowEntry
  else if ← asking (c == '-') standsAlone then blockEntry
  else if ← asking (c == '?') (indicates inFlow) then explicitKey
  else if ← asking (c == ':') (indicates inFlow) then value
  else if c == '*' then keyLike (reference .alias)
  else if c == '&' then keyLike (reference .anchor)
  else if c == '!' then keyLike tag
  else if c == '|' && !inFlow then block false
  else if c == '>' && !inFlow then block true
  else if c == '\'' then quoted false
  else if c == '"' then quoted true
  else if ← startsPlain inFlow c then plain
  else throw .document

/-- Whether the token at the head of the queue is missing, or may still turn out to stand behind another. -/
def isUnsettled : Lexing Bool := do
  if (← get).ended then return false
  if (← get).queue.isEmpty then return true
  dropStale
  let lexer ← get
  return lexer.candidates.any (·.2.number == lexer.taken)

def settle : Nat → Lexing Unit
  | 0 => throw .document
  | fuel + 1 => do
    if ← isUnsettled then
      advance
      settle fuel

/-- The next token. The last one stays. -/
def peek : Lexing Token := do
  settle ((← get).cursor.size + 2)
  return (← get).queue.head?.getD .streamEnd

def drop : Lexing Unit := modify fun lexer => { lexer with queue := lexer.queue.drop 1, taken := lexer.taken + 1 }

end Lexer
end TermStyle.Yaml
