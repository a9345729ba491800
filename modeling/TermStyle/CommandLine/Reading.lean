import TermStyle.CommandLine.Help
import TermStyle.CommandLine.Word

/-!
Reading a command line. Flags act where they stand; every stretch of arguments between them is offered to
the operands that are still unfilled; and a command takes all that follows. What nobody takes is kept, and
is an error only for the command line as a whole. -/

namespace TermStyle.CommandLine
open Text

/-- Why the reading of one grammar ends early: for its help, or with a complaint. -/
inductive Halt
  | help
  | refused (message : String)
  deriving DecidableEq, Repr

/-- The words that an operand takes from a stretch, and the rest. Separators go with the arguments. -/
def Operand.take? (operand : Operand) (stretch : List Word) : Option (List Word × List Word) :=
  let isSeparator := fun word : Word => match word.role with | .separator => true | _ => false
  let (front, rest) := stretch.span isSeparator
  match operand.arity, rest with
  | .many, _ => some (stretch, [])
  | .one, [] => none
  | .optional, [] => some (front, [])
  | _, argument :: rest =>
    let (back, rest) := rest.span isSeparator
    some (front ++ argument :: back, rest)

/-- The value of an operand for the words it takes, of which the first separator does not count. -/
def Operand.value (operand : Operand) (taken : List Word) : Value :=
  let texts := (taken.map (·.text)).erase Word.separatorText
  match operand.arity, texts with
  | .many, texts => .list (texts.map .text)
  | .optional, [] => operand.default
  | _, [text] => .text text
  | _, texts => .list (texts.map .text)

structure Offer where
  values : List (String × Value)
  unfilled : List Operand
  rest : List Word

/-- Offers a stretch of arguments to operands, one after the other; the first that cannot be filled ends it. -/
def offer : List Operand → List Word → Offer
  | [], stretch => ⟨[], [], stretch⟩
  | operand :: operands, stretch =>
    match operand.take? stretch with
    | none => ⟨[], operand :: operands, stretch⟩
    | some (taken, rest) =>
      let later := offer operands rest
      ⟨(operand.name, operand.value taken) :: later.values, later.unfilled, later.rest⟩

namespace Reading

structure State where
  /-- What was said, the latest first. -/
  values : List (String × Value)
  /-- What nobody took. -/
  extras : List String
  unfilled : List Operand
  stretch : List Word
  /-- The flag whose value is to come, with its kind. -/
  waiting : Option (Flag × Kind)

def State.offered (state : State) : State :=
  let offer := offer state.unfilled state.stretch
  { state with
    values := offer.values ++ state.values
    extras := state.extras ++ offer.rest.map (·.text)
    unfilled := offer.unfilled
    stretch := [] }

def State.flushed (state : State) : State := if state.stretch.isEmpty then state else state.offered

def State.set (state : State) (field : String) (value : Value) : State :=
  { state with values := (field, value) :: state.values }

def refuse (flag : Flag) (message : String) : Except Halt α := .error (.refused (complaint flag.title message))

/-- A separator is no value: it leaves its flag with an empty list. So it is up to release 3.11.8 of the argument
parser; later ones take it as the value. -/
def store (state : State) (flag : Flag) (kind : Kind) (text : String) : Except Halt State :=
  if text = Word.separatorText then .ok (state.set flag.field (.list []))
  else match kind.read text with
    | .ok value => .ok (state.set flag.field value)
    | .error message => refuse flag message

def act (state : State) (flag : Flag) : Except Halt State :=
  match flag.effect with
  | .help => .error .help
  | .switch => .ok (state.set flag.field (.bool true))
  | .store kind _ => .ok { state with waiting := some (flag, kind) }

/-- How a word of letters behind one dash ends: with a flag, or with a value. -/
inductive Tail
  | flag (flag : Flag)
  | value (flag : Flag) (kind : Kind) (text : String)

def ignored (flag : Flag) (text : List Char) : Except Halt α :=
  refuse flag ("ignored explicit argument " ++ Quoted.quoted (.ofList text))

/-- The flags in one word, of which only the last may take a value. `short` allows further letters. A letter that is no
flag makes all of the word wrong. So it is up to release 3.11.8 of the argument parser; later ones first use the flags
in front of it. -/
def cluster (flags : List Flag) (flag : Flag) (short : Bool) : List Char → Except Halt (List Flag × Tail)
  | [] =>
    match flag.effect with
    | .store kind _ => .ok ([], .value flag kind "")
    | _ => ignored flag []
  | c :: rest =>
    match flag.effect with
    | .store kind _ => .ok ([], .value flag kind (.ofList (c :: rest)))
    | _ =>
      match if short then Grammar.find? flags (.ofList ['-', c]) else none with
      | none => ignored flag (c :: rest)
      | some next =>
        if rest.isEmpty then .ok ([flag], .flag next)
        else (cluster flags next true rest).map fun (first, tail) => (flag :: first, tail)

def finishWord (state : State) : Tail → Except Halt State
  | .flag flag => act state flag
  | .value flag kind text => store state flag kind text

def useFlag (flags : List Flag) (state : State) (flag : Flag) (name : String) (attached : Option String) :
    Except Halt State :=
  match attached with
  | none => act state flag
  | some text => do
    let (first, tail) ← cluster flags flag (Flag.isShort name) text.toList
    finishWord (← first.foldlM act state) tail

def expected (flag : Flag) : Except Halt α := refuse flag "expected one argument"

/-- Goes through the words. Where there is a menu, the first argument starts a command, which is handed
back with all that follows. -/
def walk (flags : List Flag) (menu : Bool) : List Word → State → Except Halt (State × List Word)
  | [], state =>
    match state.waiting with
    | some (flag, _) => expected flag
    | none => .ok (state.offered, [])
  | word :: rest, state =>
    match state.waiting, word.role with
    | some (flag, kind), .argument => do
      walk flags menu rest (← store { state with waiting := none } flag kind word.text)
    | some (flag, _), _ => expected flag
    | none, .unknown =>
      let state := state.flushed
      walk flags menu rest { state with extras := state.extras ++ [word.text] }
    | none, .flag flag name attached => do walk flags menu rest (← useFlag flags state.flushed flag name attached)
    | none, _ =>
      let alone := match word.role with
        | .separator => rest.isEmpty
        | _ => false
      if menu && !alone then .ok (state, word :: rest)
      else walk flags menu rest { state with stretch := state.stretch ++ [word] }

def isRequired (operand : Operand) : Bool := operand.arity != .optional

def required (unfilled : List Operand) : Except Halt Unit :=
  match unfilled.filter isRequired with
  | [] => .ok ()
  | missing => .error (.refused ("the following arguments are required: " ++ ", ".intercalate (missing.map (·.name))))

structure Result where
  values : List (String × Value)
  extras : List String
  command : List String

def ofTexts (grammar : Grammar) (menu : Option Menu) (texts : List String) : Except Halt Result := do
  let words ← (Word.ofTexts grammar.flags texts).mapError .refused
  let start := (menu.map fun menu => (menu.field, Value.null)).toList ++ grammar.defaults
  let (state, command) ← walk grammar.flags menu.isSome words ⟨start, [], grammar.operands, [], none⟩
  required state.unfilled
  return ⟨state.values, state.extras, command.map (·.text)⟩

end Reading

/-- Why the reading of a command line ends early, with the text to show. -/
inductive Stop
  | help (text : String)
  | refused (usage program message : String)
  deriving DecidableEq, Repr

namespace Stop

def refusal (tree : Tree) (message : String) : Stop :=
  .refused (Section.tidied (Usage.render tree.grammar tree.menu)) tree.grammar.program message

def ofHalt (tree : Tree) : Halt → Stop
  | .help => .help (Help.render tree)
  | .refused message => refusal tree message

end Stop

structure Parsed where
  path : List String
  values : List (String × Value)
  extras : List String

namespace Parsed

def get (parsed : Parsed) (field : String) : Value := (parsed.values.lookup field).getD .null

def text? (parsed : Parsed) (field : String) : Option String :=
  match parsed.get field with
  | .text text => some text
  | _ => none

def isSet (parsed : Parsed) (field : String) : Bool :=
  match parsed.get field with
  | .bool value => value
  | _ => false

def texts (parsed : Parsed) (field : String) : List String :=
  match parsed.get field with
  | .list items => items.filterMap fun item => match item with | .text text => some text | _ => none
  | _ => []

end Parsed

namespace Tree

def wrongCommand (tree : Tree) (menu : Menu) (name : String) : Stop :=
  .refusal tree (complaint menu.mark
    (Kind.notChoice (Quoted.quoted name) (tree.branches.map fun branch => Quoted.quoted branch.1)))

mutual
def read : Tree → List String → Except Stop Parsed
  | .node grammar menu branches, texts =>
    match Reading.ofTexts grammar menu texts with
    | .error halt => .error (.ofHalt (.node grammar menu branches) halt)
    | .ok result =>
      match menu, result.command with
      | some menu, name :: rest =>
        match readBranch branches name rest with
        | none => .error (wrongCommand (.node grammar (some menu) branches) menu name)
        | some (.error stop) => .error stop
        | some (.ok parsed) => .ok {
            path := name :: parsed.path
            values := parsed.values ++ (menu.field, .text name) :: result.values
            extras := result.extras ++ parsed.extras }
      | _, _ => .ok ⟨[], result.values, result.extras⟩

def readBranch : List (String × Tree) → String → List String → Option (Except Stop Parsed)
  | [], _, _ => none
  | (name, tree) :: branches, wanted, texts => if name = wanted then some (read tree texts) else readBranch branches wanted texts
end

/-- Reads a whole command line, of which every word must be taken. -/
def parse (tree : Tree) (texts : List String) : Except Stop Parsed := do
  let parsed ← read tree texts
  if parsed.extras.isEmpty then return parsed
  throw (.refusal tree ("unrecognized arguments: " ++ " ".intercalate parsed.extras))

end Tree
end TermStyle.CommandLine
