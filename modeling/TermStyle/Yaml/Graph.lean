import TermStyle.Fault
import TermStyle.Yaml.Tag

/-!
The nodes of a document, numbered. Nodes refer to each other by their numbers, so an alias and the node
that it stands for are the same one, and a node may be inside itself. -/

namespace TermStyle.Yaml

inductive Node
  | scalar (tag : String) (text : String)
  | sequence (tag : String) (items : List Nat)
  | mapping (tag : String) (entries : List (Nat × Nat))
  deriving DecidableEq, Repr

namespace Node

def tag : Node → String
  | .scalar tag _ | .sequence tag _ | .mapping tag _ => tag

def withTag (tag : String) : Node → Node
  | .scalar _ text => .scalar tag text
  | .sequence _ items => .sequence tag items
  | .mapping _ entries => .mapping tag entries

def empty : Node := .scalar Tag.null ""

end Node

structure Graph where
  nodes : Array Node

namespace Graph

def node (graph : Graph) (id : Nat) : Node := graph.nodes.getD id .empty

def put (graph : Graph) (id : Nat) (node : Node) : Graph := ⟨graph.nodes.setIfInBounds id node⟩

def add (graph : Graph) (node : Node) : Graph := ⟨graph.nodes.push node⟩

def tag (graph : Graph) (id : Nat) : String := (graph.node id).tag

def entries (graph : Graph) (id : Nat) : List (Nat × Nat) :=
  match graph.node id with
  | .mapping _ entries => entries
  | _ => []

def putEntries (graph : Graph) (id : Nat) (entries : List (Nat × Nat)) : Graph :=
  graph.put id (.mapping (graph.tag id) entries)

/-! ## Merging

An entry with the merge key brings the entries of other mappings, and stands for nothing itself. Merging
changes the node, so what a mapping that is merged elsewhere brings depends on what was merged before. -/

/-- In the place of a key, the sign for a default value is text. -/
def asKey (graph : Graph) (id : Nat) : Graph :=
  if graph.tag id == Tag.defaultValue then graph.put id ((graph.node id).withTag Tag.text) else graph

def isMerge (graph : Graph) (entry : Nat × Nat) : Bool := graph.tag entry.1 == Tag.merge

def merges (graph : Graph) : Nat :=
  graph.nodes.foldl (fun count node =>
    match node with
    | .mapping _ entries => count + (entries.filter graph.isMerge).length
    | _ => count) 0

abbrev Merging := StateT Graph (Except Fault)

/-- Puts the entries that merges brought in front of a mapping's own, and gives them all. -/
def prepend (id : Nat) (brought : List (Nat × Nat)) : Merging (List (Nat × Nat)) := do
  if !brought.isEmpty then modify fun graph => graph.putEntries id (brought ++ graph.entries id)
  return (← get).entries id

/-- Collects what the merge keys of a mapping bring, from a position on, and removes them. Each takes one
merge out of the graph, so `fuel` is more than their number. -/
def collect : Nat → Nat → Nat → Merging (List (Nat × Nat))
  | 0, _, _ => return []
  | fuel + 1, id, position => do
    let graph ← get
    let own := (graph.entries id).drop position |>.takeWhile (!graph.isMerge ·)
    set (own.foldl (fun graph entry => graph.asKey entry.1) graph)
    let next := position + own.length
    match (graph.entries id)[next]? with
    | none => return []
    | some (_, source) =>
      modify fun graph => graph.putEntries id ((graph.entries id).eraseIdx next)
      let bring := fun source => do
        match (← get).node source with
        | .mapping _ _ => prepend source (← collect fuel source 0)
        | _ => throw .document
      let brought ← match (← get).node source with
        | .sequence _ items => do pure (← items.mapM bring).reverse.flatten
        | _ => bring source
      return brought ++ (← collect fuel id next)

/-- The entries of a mapping after its merges. Of several mappings in one list the first counts, so it comes last. -/
def merged (fuel id : Nat) : Merging (List (Nat × Nat)) := do prepend id (← collect fuel id 0)

end Graph
end TermStyle.Yaml
