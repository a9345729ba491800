import TermStyle.Store.Path

/-!
A store of files under slash-separated names. Names are looked up component by component, so a missing
directory, a file used as a directory and an overlong name fail as they would on a disk. -/

namespace TermStyle

namespace Store

inductive Error
  | taken
  | notFound
  | isDirectory
  | notDirectory
  | nameTooLong
  | nulCharacter
  deriving DecidableEq, Repr

inductive Node
  | file (content : ByteArray)
  | directory

namespace Node

instance instDecidableEq : DecidableEq Node
  | .file first, .file second =>
    match ByteArray.instDecidableEq first second with
    | isTrue same => isTrue (congrArg file same)
    | isFalse other => isFalse fun same => other (Node.file.inj same)
  | .directory, .directory => isTrue rfl
  | .file _, .directory => isFalse Node.noConfusion
  | .directory, .file _ => isFalse Node.noConfusion

end Node

/-- Where a name leads: whether it starts at the root, and the components from there. -/
structure Location where
  absolute : Bool
  parts : List String
  deriving DecidableEq, Repr

end Store

structure Store where
  nodes : List (Store.Location × Store.Node)
  /-- The home that the list of accounts has for the user, if it lists the user. -/
  home : Option String

namespace Store

def empty : Store := ⟨[], none⟩

/-- Whether a location is a starting point or above it. -/
def Location.isOutside (location : Location) : Bool := location.parts.all (· == "..")

def Location.parent (location : Location) : Location :=
  if !location.isOutside then { location with parts := location.parts.dropLast }
  else if location.absolute then location
  else { location with parts := ".." :: location.parts }

/-- The node at a location. The starting points and what is above them are directories that always exist. -/
def node? (store : Store) (location : Location) : Option Node :=
  if location.isOutside then some .directory else store.nodes.lookup location

def put (store : Store) (location : Location) (node : Node) : Store :=
  if store.nodes.any (·.1 == location) then
    { store with nodes := store.nodes.map fun entry => if entry.1 == location then (location, node) else entry }
  else { store with nodes := store.nodes ++ [(location, node)] }

def nameLimit : Nat := 255
def pathLimit : Nat := 4095

def step (store : Store) (here : Location) (part : String) : Except Error Location :=
  match store.node? here with
  | none => .error .notFound
  | some (.file _) => .error .notDirectory
  | some .directory =>
    if part = "" ∨ part = "." then .ok here
    else if part = ".." then .ok here.parent
    else if nameLimit < part.utf8ByteSize then .error .nameTooLong
    else .ok { here with parts := here.parts ++ [part] }

def start (name : String) : Except Error Location :=
  if name.toList.contains '\x00' then .error .nulCharacter
  else if name.isEmpty then .error .notFound
  else if pathLimit < name.utf8ByteSize then .error .nameTooLong
  else .ok ⟨name.toList.head? == some '/', []⟩

/-- Where a name leads. Everything but the last component has to be there. -/
def locate (store : Store) (name : String) : Except Error Location := do
  (Path.stretches name).foldlM store.step (← start name)

/-- Where a file can be made under a name. With a slash at its end a name is one of a directory, whatever is there. -/
def locateFile (store : Store) (name : String) : Except Error Location := do
  if name.toList.getLast? != some '/' then return ← store.locate name
  let above := ((Path.stretches name).reverse.dropWhile String.isEmpty).drop 1
  let here ← above.reverse.foldlM store.step (← start name)
  discard (store.step here ".")
  throw .isDirectory

/-- Whether something is there. Names that cannot exist are not; only an overlong one is an error. -/
def exists? (store : Store) (name : String) : Except Error Bool :=
  match store.locate name with
  | .ok location => .ok (store.node? location).isSome
  | .error .nameTooLong => .error .nameTooLong
  | .error _ => .ok false

def isDirectory? (store : Store) (name : String) : Except Error Bool :=
  match store.locate name with
  | .ok location => .ok (match store.node? location with | some .directory => true | _ => false)
  | .error .nameTooLong => .error .nameTooLong
  | .error _ => .ok false

def read (store : Store) (name : String) : Except Error ByteArray := do
  match store.node? (← store.locate name) with
  | some (.file content) => return content
  | some .directory => throw .isDirectory
  | none => throw .notFound

/-- Replaces the content of a file, which is made if it is not there. -/
def write (store : Store) (name : String) (content : ByteArray) : Except Error Store := do
  let location ← store.locateFile name
  match store.node? location with
  | some .directory => throw .isDirectory
  | some (.file _) => return store.put location (.file content)
  | none => return store.put location (.file content)

def touch (store : Store) (name : String) : Except Error Store :=
  match store.read name with
  | .ok _ => .ok store
  | .error .notFound => store.write name .empty
  | .error error => .error error

def makeDirectory (store : Store) (name : String) : Except Error Store := do
  let location ← store.locate name
  if (store.node? location).isSome then throw .taken
  return store.put location .directory

def ensureDirectory (store : Store) (name : String) : Except Error Store :=
  match store.makeDirectory name with
  | .ok made => .ok made
  | .error error => do
    if ← store.isDirectory? name then return store
    throw error

/-- Steps that change a store. What was done before a step failed is not undone. -/
abbrev Change := ExceptT Error (StateM Store)

namespace Change

def once (step : Store → Except Error Store) : Change Unit := do
  match step (← get) with
  | .ok store => set store
  | .error error => throw error

def on (store : Store) (change : Change Unit) : Except Error Unit × Store := change.run.run store

end Change

/-- Makes a directory and whatever is missing above it; `fuel` is at least the number of components. -/
def ensureTree : Nat → Path → Change Unit
  | 0, _ => throw .notFound
  | fuel + 1, path => do
    match (← get).makeDirectory path.text with
    | .ok made => set made
    | .error .notFound =>
      if path.parts.isEmpty then throw .notFound
      ensureTree fuel path.parent
      .once (·.ensureDirectory path.text)
    | .error error =>
      match (← get).isDirectory? path.text with
      | .ok true => return
      | .ok false => throw error
      | .error other => throw other

def ensureParent (name : String) : Change Unit :=
  let path := (Path.ofText name).parent
  ensureTree (path.parts.length + 1) path

def install (name : String) (content : ByteArray) : Change Unit := do
  ensureParent name
  .once (·.write name content)

def remove (store : Store) (location : Location) : Store :=
  { store with nodes := store.nodes.filter (·.1 != location) }

/-- Moves a file over whatever file stands at the target. -/
def rename (store : Store) (source target : Location) : Store :=
  match store.nodes.lookup source with
  | some node => (store.remove source).put target node
  | none => store

end Store
end TermStyle
