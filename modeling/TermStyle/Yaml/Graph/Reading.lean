import TermStyle.Yaml.Graph
import TermStyle.Yaml.Lexer

/-!
Reading the graph of a document from its tokens. A node has its number before its inside is read, so an
alias inside it can stand for it. Tokens are asked for one by one, and a fault of an earlier node comes
before a fault of a later token. -/

namespace TermStyle.Yaml.Graph.Reading

structure State where
  lexer : Lexer
  handles : List (String × String)
  anchors : List (String × Nat)
  graph : Graph
  /-- How many collections are open. -/
  depth : Nat

abbrev Reader := StateT State (Except Fault)

def lexing (step : Lexing α) : Reader α := do
  let state ← get
  let (found, lexer) ← (step.run state.lexer : Except Fault (α × Lexer))
  set { state with lexer }
  return found

def peek : Reader Token := lexing Lexer.peek

def drop : Reader Unit := lexing Lexer.drop

def accept (token : Token) : Reader Bool := do
  if (← peek) = token then
    drop
    return true
  return false

def expect (token : Token) : Reader Unit := do
  if !(← accept token) then throw .document

def isAny (tokens : List Token) : Reader Bool := return tokens.contains (← peek)

/-! ## Anchors and tags -/

structure Properties where
  anchor : Option String
  tag : Option String

def resolved (handle : Option String) (suffix : String) : Reader (Option String) := do
  match handle with
  | none => return some suffix
  | some handle =>
    match (← get).handles.lookup handle with
    | some leading => return some (leading ++ suffix)
    | none => throw .document

/-- An anchor and a tag in either order, each at most once. -/
def properties : Reader Properties := do
  match ← peek with
  | .anchor name =>
    drop
    match ← peek with
    | .tag handle suffix =>
      drop
      return ⟨some name, ← resolved handle suffix⟩
    | _ => return ⟨some name, none⟩
  | .tag handle suffix =>
    drop
    match ← peek with
    | .anchor name =>
      drop
      return ⟨some name, ← resolved handle suffix⟩
    | _ => return ⟨none, ← resolved handle suffix⟩
  | _ => return ⟨none, none⟩

/-- Adds a node, under its anchor if it has one, which must be new. -/
def add (anchor : Option String) (node : Node) : Reader Nat := do
  let state ← get
  let id := state.graph.nodes.size
  let known := anchor.bind fun name => state.anchors.lookup name
  if known.isSome then throw .document
  set { state with
    graph := state.graph.add node
    anchors := (anchor.map fun name => (name, id)).toList ++ state.anchors }
  return id

def addEmpty : Reader Nat := add none .empty

/-- The lone exclamation mark leaves the choice of a tag to the document. -/
def collectionTag (tag : Option String) (default : String) : String :=
  match tag with
  | some "!" | none => default
  | some tag => tag

def scalarTag (tag : Option String) (text : String) (isPlain : Bool) : String :=
  match tag with
  | some "!" => Tag.ofPlain text
  | some tag => tag
  | none => if isPlain then Tag.ofPlain text else Tag.text

/-- How deep collections may be inside each other. The reader has a thousand nested calls and needs two for each, less
those that are under way when it starts: the limit lies between 468 and 493 by who calls it, and here for a load on its
own. -/
def depthLimit : Nat := 490

def nested (inside : Reader α) : Reader α := do
  let depth := (← get).depth
  if depthLimit ≤ depth then throw .endless
  modify ({ · with depth := depth + 1 })
  let found ← inside
  modify ({ · with depth })
  return found

def sequence (properties : Properties) (items : Reader (List Nat)) : Reader Nat := do
  let tag := collectionTag properties.tag Tag.sequence
  let id ← add properties.anchor (.sequence tag [])
  let items ← nested items
  modify fun state => { state with graph := state.graph.put id (.sequence tag items) }
  return id

def mapping (properties : Properties) (entries : Reader (List (Nat × Nat))) : Reader Nat := do
  let tag := collectionTag properties.tag Tag.mapping
  let id ← add properties.anchor (.mapping tag [])
  let entries ← nested entries
  modify fun state => { state with graph := state.graph.putEntries id entries }
  return id

/-! ## Nodes -/

mutual
/-- A node. `block` allows collections by indentation, `indentless` also a sequence that is not indented. -/
def node : Nat → Bool → Bool → Reader Nat
  | 0, _, _ => throw .document
  | fuel + 1, block, indentless => do
    if let .alias name ← peek then
      drop
      match (← get).anchors.lookup name with
      | some id => return id
      | none => throw .document
    let found ← properties
    match ← peek with
    | .scalar text isPlain =>
      drop
      add found.anchor (.scalar (scalarTag found.tag text isPlain) text)
    | .flowSequenceStart => sequence found (do drop; flowItems fuel true)
    | .flowMappingStart => mapping found (do drop; flowEntries fuel true)
    | token =>
      if token = .blockEntry ∧ indentless then sequence found (indentlessItems fuel)
      else if token = .blockSequenceStart ∧ block then sequence found (do drop; blockItems fuel)
      else if token = .blockMappingStart ∧ block then mapping found (do drop; blockEntries fuel)
      else if found.anchor.isSome || found.tag.isSome then add found.anchor (.scalar (scalarTag found.tag "" true) "")
      else throw .document

def blockItems : Nat → Reader (List Nat)
  | 0 => throw .document
  | fuel + 1 => do
    if ← accept .blockEntry then
      let item ← if ← isAny [.blockEntry, .blockEnd] then addEmpty else node fuel true false
      return item :: (← blockItems fuel)
    expect .blockEnd
    return []

def indentlessItems : Nat → Reader (List Nat)
  | 0 => throw .document
  | fuel + 1 => do
    if ← accept .blockEntry then
      let item ← if ← isAny [.blockEntry, .key, .value, .blockEnd] then addEmpty else node fuel true false
      return item :: (← indentlessItems fuel)
    return []

def blockEntries : Nat → Reader (List (Nat × Nat))
  | 0 => throw .document
  | fuel + 1 => do
    if ← accept .key then
      let key ← blockPart fuel
      let value ← if ← accept .value then blockPart fuel else addEmpty
      return (key, value) :: (← blockEntries fuel)
    expect .blockEnd
    return []

/-- A key or a value in a mapping by indentation, which may be left out. -/
def blockPart : Nat → Reader Nat
  | 0 => throw .document
  | fuel + 1 => do
    if ← isAny [.key, .value, .blockEnd] then addEmpty else node fuel true true

/-- A key or a value between brackets, which may be left out in front of what may follow it. -/
def flowPart : Nat → List Token → Reader Nat
  | 0, _ => throw .document
  | fuel + 1, followers => do
    if ← isAny followers then addEmpty else node fuel false false

/-- An entry between brackets that end so, from behind the sign of its key. -/
def flowEntry : Nat → Token → Reader (Nat × Nat)
  | 0, _ => throw .document
  | fuel + 1, closing => do
    let key ← flowPart fuel [.value, .flowEntry, closing]
    let value ← if ← accept .value then flowPart fuel [.flowEntry, closing] else addEmpty
    return (key, value)

def flowItems : Nat → Bool → Reader (List Nat)
  | 0, _ => throw .document
  | fuel + 1, first => do
    if ← accept .flowSequenceEnd then return []
    if !first then expect .flowEntry
    if (← peek) = .key then
      let item ← mapping ⟨none, none⟩ (do drop; return [← flowEntry fuel .flowSequenceEnd])
      return item :: (← flowItems fuel false)
    if ← accept .flowSequenceEnd then return []
    let item ← node fuel false false
    return item :: (← flowItems fuel false)

def flowEntries : Nat → Bool → Reader (List (Nat × Nat))
  | 0, _ => throw .document
  | fuel + 1, first => do
    if ← accept .flowMappingEnd then return []
    if !first then expect .flowEntry
    if ← accept .key then
      let entry ← flowEntry fuel .flowMappingEnd
      return entry :: (← flowEntries fuel false)
    if ← accept .flowMappingEnd then return []
    let key ← node fuel false false
    return (key, ← addEmpty) :: (← flowEntries fuel false)
end

/-! ## Documents -/

def standardHandles : List (String × String) := [("!", "!"), ("!!", Tag.standard)]

def directives : Nat → Bool → List (String × String) → Reader (List (String × String))
  | 0, _, _ => throw .document
  | fuel + 1, versioned, handles => do
    match ← peek with
    | .version major =>
      drop
      if versioned || major != 1 then throw .document
      directives fuel true handles
    | .tagHandle handle leading =>
      drop
      if (handles.lookup handle).isSome then throw .document
      directives fuel versioned ((handle, leading) :: handles)
    | .otherDirective =>
      drop
      directives fuel versioned handles
    | _ => return handles ++ standardHandles

def startsExplicitly : Token → Bool
  | .version _ | .tagHandle _ _ | .otherDirective | .documentStart => true
  | _ => false

def head (fuel : Nat) : Reader Unit := do
  let handles ← directives fuel false []
  modify ({ · with handles })
  expect .documentStart

def dropEnds : Nat → Reader Unit
  | 0 => return
  | fuel + 1 => do if ← accept .documentEnd then dropEnds fuel

def rootNode (fuel : Nat) : Reader Nat := do
  if !startsExplicitly (← peek) then node fuel true false
  else
    head fuel
    let next ← peek
    if startsExplicitly next || next = .documentEnd || next = .streamEnd then addEmpty else node fuel true false

/-- The only document of a stream; there may be none. A second one is read up to where it starts. -/
def document (fuel : Nat) : Reader (Option Nat) := do
  if (← peek) = .streamEnd then return none
  let root ← rootNode fuel
  dropEnds fuel
  if (← peek) != .streamEnd then
    head fuel
    throw .document
  return some root

end Reading

def read (source : Source) : Except Fault (Graph × Option Nat) := do
  let fuel := 32 * (source.text.length + 4)
  let (root, state) ← (Reading.document fuel).run ⟨.start source, Reading.standardHandles, [], ⟨#[]⟩, 0⟩
  return (state.graph, root)

end TermStyle.Yaml.Graph
