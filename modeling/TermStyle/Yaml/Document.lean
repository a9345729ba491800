import TermStyle.Yaml.Graph.Reading
import TermStyle.Yaml.Key
import TermStyle.Yaml.Meaning

/-!
What the nodes of a document stand for. Collections are filled in the order in which they are met, those
nearest to the root first, and scalars are read where they are met; of several faults the first counts. A
key is met before its value, and has to be a scalar. Like nodes, objects refer to each other by number. -/

namespace TermStyle.Yaml

inductive Object
  | scalar (value : Value)
  | list (items : List Nat)
  | pairs (items : List (Nat × Nat))
  | set (members : List Key)
  | dict (entries : List (Key × Nat))

/-- The objects of a document, by the numbers of their nodes. -/
structure Document where
  objects : Array (Option Object)
  root : Nat

namespace Document

/-- A document that is being made. Some objects are still to be filled, the latest first. -/
structure Build where
  graph : Graph
  objects : Array (Option Object)
  unfilled : List Nat

abbrev Building := StateT Build (Except Fault)

def put (id : Nat) (object : Object) : Building Unit :=
  modify fun build => { build with objects := build.objects.setIfInBounds id (some object) }

/-- The text of a scalar, or of the value that a mapping gives for itself, which may be itself again. -/
def content (graph : Graph) : Nat → Nat → Except Fault String
  | 0, _ => .error .endless
  | fuel + 1, id =>
    match graph.node id with
    | .scalar _ text => .ok text
    | .mapping _ entries =>
      match entries.find? fun entry => graph.tag entry.1 == Tag.defaultValue with
      | some (_, value) => content graph fuel value
      | none => .error .document
    | .sequence _ _ => .error .document

def scalar (graph : Graph) (id : Nat) (read : String → Except Fault Value) : Except Fault Value := do
  let text ← content graph (graph.nodes.size + 1) id
  match graph.node id with
  | .mapping tag _ => if tag == Tag.timestamp then throw .notText
  | _ => pure ()
  read text

/-- What a collection is before it is filled. -/
def unfilled? (tag : String) : Option Object :=
  if tag == Tag.sequence then some (.list [])
  else if tag == Tag.mapping then some (.dict [])
  else if tag == Tag.set then some (.set [])
  else if tag == Tag.orderedMapping || tag == Tag.pairs then some (.pairs [])
  else none

def meet (id : Nat) : Building Unit := do
  let build ← get
  if (build.objects.getD id none).isSome then return
  let tag := build.graph.tag id
  match Scalar.readers.lookup tag, unfilled? tag with
  | some read, _ => put id (.scalar (← scalar build.graph id read))
  | none, some object =>
    put id object
    modify fun build => { build with unfilled := id :: build.unfilled }
  | none, none => throw .document

def isNaNName (text : String) : Bool :=
  let body := (Text.CaseMap.lower (.ofList (Scalar.withoutSpacers text))).toList
  body == ".nan".toList || body == "-.nan".toList || body == "+.nan".toList

def keyOf (id : Nat) : Building Key := do
  let build ← get
  match build.objects.getD id none with
  | some (.scalar value) =>
    let named := (content build.graph (build.graph.nodes.size + 1) id).toOption.any isNaNName
    return ⟨value, if named then none else some id⟩
  | _ => throw .document

def items (id : Nat) : Building (List Nat) := do
  match (← get).graph.node id with
  | .sequence _ items => return items
  | _ => throw .document

def merging (step : Graph.Merging α) : Building α := do
  let build ← get
  let (found, graph) ← (step.run build.graph : Except Fault (α × Graph))
  set { build with graph }
  return found

/-- The entries of a mapping, with its merges done. `fuel` is more than the number of merges. -/
def entries (fuel id : Nat) : Building (List (Key × Nat)) := do
  match (← get).graph.node id with
  | .mapping _ _ =>
    let found ← (← merging (Graph.merged fuel id)).mapM fun (key, value) => do
      meet key
      let key ← keyOf key
      meet value
      return (key, value)
    return found.foldl Key.put []
  | _ => throw .document

/-- An entry of an ordered mapping: a mapping with one entry. -/
def single (id : Nat) : Building (Nat × Nat) := do
  match (← get).graph.node id with
  | .mapping _ [(key, value)] =>
    meet key
    meet value
    return (key, value)
  | _ => throw .document

def fill (fuel id : Nat) : Building Unit := do
  match (← get).objects.getD id none with
  | some (.list _) =>
    let items ← items id
    items.forM meet
    put id (.list items)
  | some (.dict _) => put id (.dict (← entries fuel id))
  | some (.set _) => put id (.set ((← entries fuel id).map (·.1)))
  | some (.pairs _) => put id (.pairs (← (← items id).mapM single))
  | _ => return

/-- Fills what is not filled yet, and what that brings. Every object is filled once. -/
def fillAll (merges : Nat) : Nat → Building Unit
  | 0 => return
  | fuel + 1 => do
    let waiting := (← get).unfilled.reverse
    if waiting.isEmpty then return
    modify ({ · with unfilled := [] })
    waiting.forM (fill merges)
    fillAll merges fuel

def ofGraph (graph : Graph) (root : Nat) : Except Fault Document := do
  let build : Build := ⟨graph, graph.nodes.map fun _ => none, []⟩
  let ((), build) ← (do meet root; fillAll (graph.merges + 1) (graph.nodes.size + 1) : Building Unit).run build
  return ⟨build.objects, root⟩

/-! ## Values -/

def object (document : Document) (id : Nat) : Object := (document.objects.getD id none).getD (.scalar .null)

/-- The value of an object. What is met again inside itself is not gone into; `outside` are the objects
around, and `fuel` is more than there are in the document. -/
def unfold (document : Document) : Nat → List Nat → Nat → Value
  | 0, _, _ => .null
  | fuel + 1, outside, id =>
    let inside := unfold document fuel (id :: outside)
    match document.object id with
    | .scalar value => value
    | .set members => .set (Key.shown (members.map (·.value)))
    | .list items => if outside.contains id then .cycle false else .list (items.map inside)
    | .pairs items =>
      if outside.contains id then .cycle false
      else .list (items.map fun (first, second) => .tuple [inside first, inside second])
    | .dict entries =>
      if outside.contains id then .cycle true
      else .dict (entries.map fun (key, value) => (key.value, inside value))

def value (document : Document) (id : Nat) : Value := document.unfold (document.objects.size + 1) [] id

/-- The entries of a document that is a mapping. An empty value of any kind has none. -/
def entries? (document : Document) : Option (List (Value × Nat)) :=
  let none? := fun (isEmpty : Bool) => if isEmpty then some [] else none
  match document.object document.root with
  | .dict entries => some (entries.map fun (key, value) => (key.value, value))
  | .scalar value => none? value.isEmpty
  | .list items => none? items.isEmpty
  | .pairs items => none? items.isEmpty
  | .set members => none? members.isEmpty

def empty : Document := ⟨#[], 0⟩

end Document
end TermStyle.Yaml
