import Mathlib.Data.List.Nodup
import TermStyle.Proofs.FlatGraph
import TermStyle.Yaml

/-! What a document of lines stands for: an entry for each line, if the keys are texts and no key is there twice. -/

namespace TermStyle.Proofs.FlatDocument
open Yaml Yaml.Document StateSteps ExceptSteps FlatGraph

variable {graph : Graph} {line : Line} {lines : List Line} {front back : List (Option Object)} {unfilled : List Nat} {id : Nat}

/-- The key of the line is a text, and its value is read as a known one. -/
structure Means (line : Line) (value : Value) : Prop where
  key : Tag.ofPlain (.ofList line.key) = Tag.text
  read : ∃ reader, Scalar.readers.lookup (Graph.Reading.scalarTag none (.ofList line.value) line.isPlain) = some reader ∧
    reader (.ofList line.value) = .ok value

/-- The node of a number, where the nodes in front of it are as many. -/
def Has (graph : Graph) (id : Nat) (node : Node) : Prop := graph.nodes[id]? = some node

theorem has_node {node : Node} (there : Has graph id node) : graph.node id = node := by
  rw [Graph.node, Array.getD_eq_getD_getElem?, there]
  rfl

theorem content_scalar {tag text : String} (there : Has graph id (.scalar tag text)) (fuel : Nat) :
    content graph (fuel + 1) id = .ok text := by
  rw [content, has_node there]

theorem scalar_read {tag text : String} (there : Has graph id (.scalar tag text)) (read : String → Except Fault Value) :
    scalar graph id read = read text := by
  rw [scalar, content_scalar there, has_node there]
  rfl

theorem unmet (front back : List (Option Object)) : (⟨front ++ none :: back⟩ : Array (Option Object)).getD front.length none = none := by
  simp [Array.getD_eq_getD_getElem?]

theorem put_ends (object : Object) : Ends (put front.length object) ⟨graph, ⟨front ++ none :: back⟩, unfilled⟩ ⟨⟩
    ⟨graph, ⟨front ++ some object :: back⟩, unfilled⟩ := by
  refine ends_modify.mpr ?_
  simp

theorem meet_scalar {tag text : String} (there : Has graph front.length (.scalar tag text)) {reader : String → Except Fault Value}
    (known : Scalar.readers.lookup tag = some reader) {value : Value} (read : reader text = .ok value) :
    Ends (meet front.length) ⟨graph, ⟨front ++ none :: back⟩, unfilled⟩ ⟨⟩
      ⟨graph, ⟨front ++ some (.scalar value) :: back⟩, unfilled⟩ := by
  have tagged : graph.tag front.length = tag := by rw [Graph.tag, has_node there, Node.tag]
  refine Ends.bind (ends_get.mpr ⟨rfl, rfl⟩) ?_
  simp only [unmet, tagged, known, scalar_read there, read]
  exact Ends.bind rfl (put_ends _)

theorem keyOf_text {build : Build} {text : String} (met : build.objects.getD id none = some (.scalar (.text text))) :
    ∃ origin, Ends (keyOf id) build ⟨.text text, origin⟩ build := by
  refine ⟨if (content build.graph (build.graph.nodes.size + 1) id).toOption.any isNaNName then none else some id, ?_⟩
  refine Ends.bind (ends_get.mpr ⟨rfl, rfl⟩) ?_
  simp only [met]
  exact ends_pure.mpr ⟨rfl, rfl⟩

def entry (pair : Nat × Nat) : Building (Key × Nat) := do
  meet pair.1
  let key ← keyOf pair.1
  meet pair.2
  return (key, pair.2)

variable {value : Value}

def lineObjects (line : Line) (value : Value) : List (Option Object) :=
  [some (.scalar (.text (.ofList line.key))), some (.scalar value)]

theorem entry_line (means : Means line value)
    (key : Has graph front.length (.scalar (Graph.Reading.scalarTag none (.ofList line.key) true) (.ofList line.key)))
    (own : Has graph (front.length + 1)
      (.scalar (Graph.Reading.scalarTag none (.ofList line.value) line.isPlain) (.ofList line.value))) :
    ∃ origin, Ends (entry (front.length, front.length + 1)) ⟨graph, ⟨front ++ none :: none :: back⟩, unfilled⟩
      (⟨.text (.ofList line.key), origin⟩, front.length + 1)
      ⟨graph, ⟨front ++ lineObjects line value ++ back⟩, unfilled⟩ := by
  have tagged : Graph.Reading.scalarTag none (.ofList line.key) true = Tag.text := means.key
  rw [tagged] at key
  obtain ⟨reader, known, read⟩ := means.read
  have first : Ends (meet front.length) ⟨graph, ⟨front ++ none :: none :: back⟩, unfilled⟩ ⟨⟩
      ⟨graph, ⟨front ++ some (.scalar (.text (.ofList line.key))) :: none :: back⟩, unfilled⟩ := meet_scalar key rfl rfl
  have met : (⟨front ++ some (.scalar (.text (.ofList line.key))) :: none :: back⟩ : Array (Option Object)).getD front.length none =
      some (.scalar (.text (.ofList line.key))) := by simp [Array.getD_eq_getD_getElem?]
  obtain ⟨origin, keyed⟩ :=
    @keyOf_text _ ⟨graph, ⟨front ++ some (.scalar (.text (.ofList line.key))) :: none :: back⟩, unfilled⟩ _ met
  have numbered : (front ++ [some (Object.scalar (.text (.ofList line.key)))]).length = front.length + 1 := List.length_append
  have second := @meet_scalar graph (front ++ [some (.scalar (.text (.ofList line.key)))]) back unfilled _ _ (numbered ▸ own)
    _ known _ read
  rw [numbered, List.append_assoc, List.append_assoc] at second
  refine ⟨origin, Ends.bind first (Ends.bind keyed (Ends.bind second (ends_pure.mpr ⟨rfl, ?_⟩)))⟩
  simp [lineObjects]

/-- The nodes of the lines stand in the graph from a number on. -/
def Stands (graph : Graph) (id : Nat) (lines : List Line) : Prop := graph.nodes.toList.drop id = linesNodes lines

def numbered (id : Nat) : List Line → List (Value × Nat)
  | [] => []
  | line :: lines => (.text (.ofList line.key), id + 1) :: numbered (id + 2) lines

theorem stands_cons (stands : Stands graph id (line :: lines)) :
    Has graph id (.scalar (Graph.Reading.scalarTag none (.ofList line.key) true) (.ofList line.key)) ∧
    Has graph (id + 1) (.scalar (Graph.Reading.scalarTag none (.ofList line.value) line.isPlain) (.ofList line.value)) ∧
    Stands graph (id + 2) lines := by
  unfold Stands at stands
  have place (distance : Nat) : graph.nodes[id + distance]? = (linesNodes (line :: lines))[distance]? := by
    rw [← stands, List.getElem?_drop, Array.getElem?_toList]
  refine ⟨place 0, place 1, ?_⟩
  rw [Stands, ← List.drop_drop, stands]
  rfl

theorem entries_mapM {meaning : Line → Value} (means : ∀ line ∈ lines, Means line (meaning line))
    (stands : Stands graph front.length lines) :
    ∃ found, found.map (fun entry => (entry.1.value, entry.2)) = numbered front.length lines ∧
      Ends ((pairs front.length lines).mapM entry) ⟨graph, ⟨front ++ lines.flatMap fun _ => [none, none]⟩, unfilled⟩ found
        ⟨graph, ⟨front ++ lines.flatMap fun line => lineObjects line (meaning line)⟩, unfilled⟩ := by
  induction lines generalizing front with
  | nil => exact ⟨[], rfl, ends_pure.mpr ⟨rfl, rfl⟩⟩
  | cons line lines ih =>
    obtain ⟨key, own, others⟩ := stands_cons stands
    obtain ⟨origin, first⟩ := @entry_line graph line front (lines.flatMap fun _ => [none, none]) unfilled _
      (means line (by simp)) key own
    have numbered : (front ++ lineObjects line (meaning line)).length = front.length + 2 := List.length_append
    obtain ⟨found, listed, rest⟩ := @ih (front ++ lineObjects line (meaning line))
      (fun other member => means other (by simp [member])) (numbered ▸ others)
    rw [numbered] at listed rest
    refine ⟨(⟨.text (.ofList line.key), origin⟩, front.length + 1) :: found, ?_, ?_⟩
    · rw [List.map_cons, listed]
      rfl
    · rw [pairs, List.mapM_cons]
      refine Ends.bind first (Ends.bind rest (ends_pure.mpr ⟨rfl, ?_⟩))
      simp

/-! ## The mapping -/

theorem key_tag {meaning : Line → Value} (means : ∀ line ∈ lines, Means line (meaning line)) (stands : Stands graph id lines) :
    ∀ pair ∈ pairs id lines, graph.tag pair.1 = Tag.text := by
  induction lines generalizing id with
  | nil => nofun
  | cons line lines ih =>
    obtain ⟨key, _, others⟩ := stands_cons stands
    intro pair member
    rcases List.mem_cons.mp member with rfl | later
    · rw [Graph.tag, has_node key]
      exact (means line (by simp)).key
    · exact ih (fun other listed => means other (by simp [listed])) others pair later

/-- Where all keys are texts, there is nothing to merge. -/
theorem merged_plain (texts : ∀ pair ∈ graph.entries id, graph.tag pair.1 = Tag.text) (fuel : Nat) :
    Ends (Graph.merged (fuel + 1) id) graph (graph.entries id) graph := by
  have none (pair : Nat × Nat) (member : pair ∈ graph.entries id) : graph.isMerge pair = false := by
    rw [Graph.isMerge, texts pair member]
    decide
  have all : (graph.entries id).takeWhile (!graph.isMerge ·) = graph.entries id :=
    List.takeWhile_eq_self_iff.mpr fun pair member => by simp [none pair member]
  have kept : (graph.entries id).foldl (fun graph entry => graph.asKey entry.1) graph = graph := by
    refine List.foldlRecOn _ _ (motive := fun found => found = graph) rfl fun found same pair member => ?_
    rw [same, Graph.asKey, texts pair member]
    rfl
  have collected : Ends (Graph.collect (fuel + 1) id 0) graph [] graph := by
    refine Ends.bind (ends_get.mpr ⟨rfl, rfl⟩) (Ends.bind (ends_set.mpr rfl) ?_)
    rw [List.drop_zero, all, kept, Nat.zero_add]
    dsimp only
    rw [List.getElem?_eq_none (Nat.le_refl _)]
    exact ends_pure.mpr ⟨rfl, rfl⟩
  exact Ends.bind collected (Ends.bind (ends_get.mpr ⟨rfl, rfl⟩) (ends_pure.mpr ⟨rfl, rfl⟩))

/-- Entries under different texts stay as they are, whatever was put in front of them. -/
theorem puts_apart {entries : List (Key × Nat)} (apart : entries.Pairwise fun first second => first.1.isSame second.1 = false) :
    entries.foldl Key.put [] = entries := by
  have further : ∀ (more known : List (Key × Nat)), (known ++ more).Pairwise (fun a b => a.1.isSame b.1 = false) →
      more.foldl Key.put known = known ++ more := by
    intro more
    induction more with
    | nil => simp
    | cons entry more ih =>
      intro known apart
      have new : (known.any fun other => other.1.isSame entry.1) = false := by
        refine List.any_eq_false.mpr fun other member => ?_
        simp [(List.pairwise_append.mp apart).2.2 other member entry (by simp)]
      rw [List.foldl_cons, Key.put, new, if_neg Bool.false_ne_true, ih]
      · simp
      · simpa using apart
  simpa using further entries [] apart

theorem numbered_keys (id : Nat) (lines : List Line) :
    (numbered id lines).map (·.1) = lines.map fun line => .text (.ofList line.key) := by
  induction lines generalizing id with
  | nil => rfl
  | cons line lines ih => rw [numbered, List.map_cons, List.map_cons, ih]

theorem numbered_apart (keys : (lines.map Line.key).Nodup) {found : List (Key × Nat)}
    (listed : found.map (fun entry => (entry.1.value, entry.2)) = numbered id lines) :
    found.Pairwise fun first second => first.1.isSame second.1 = false := by
  have values : found.map (·.1.value) = lines.map fun line => .text (.ofList line.key) := by
    rw [← numbered_keys id, ← listed, List.map_map]
    rfl
  have texts : ∀ entry ∈ found, ∃ text, entry.1.value = .text text := by
    intro entry member
    have there : entry.1.value ∈ found.map (·.1.value) := List.mem_map.mpr ⟨entry, member, rfl⟩
    rw [values] at there
    obtain ⟨line, _, same⟩ := List.mem_map.mp there
    exact ⟨_, same.symm⟩
  have unlike : (found.map (·.1.value)).Nodup := by
    have text_inj : Function.Injective fun key : List Char => Value.text (.ofList key) :=
      fun first second same => String.ofList_injective (Value.text.inj same)
    rw [values]
    have mapped := List.Nodup.map text_inj keys
    rwa [List.map_map] at mapped
  refine List.Pairwise.imp_of_mem ?_ (List.pairwise_map.mp unlike)
  intro first second firstIn secondIn other
  obtain ⟨firstName, own⟩ := texts first firstIn
  obtain ⟨secondName, elses⟩ := texts second secondIn
  have apart : firstName ≠ secondName := fun same => other (by rw [own, elses, same])
  simp [Key.isSame, own, elses, apart]

theorem root_tag (lines : List Line) : (linesGraph lines).tag 0 = Tag.mapping := by
  simp [linesGraph, rooted, Graph.tag, Graph.node, Node.tag, Array.getD]

theorem root_entries (lines : List Line) : (linesGraph lines).entries 0 = pairs 1 lines := by
  simp [linesGraph, rooted, Graph.entries, Graph.node, Array.getD]

theorem lines_stand (lines : List Line) : Stands (linesGraph lines) 1 lines := by
  simp [Stands, linesGraph, rooted]

theorem root_has (lines : List Line) : Has (linesGraph lines) 0 (.mapping Tag.mapping (pairs 1 lines)) := by
  simp [Has, linesGraph, rooted]

variable {meaning : Line → Value}

theorem merging_lines {objects : List (Option Object)} (means : ∀ line ∈ lines, Means line (meaning line)) (fuel : Nat) :
    Ends (merging (Graph.merged (fuel + 1) 0)) ⟨linesGraph lines, ⟨objects⟩, []⟩ (pairs 1 lines) ⟨linesGraph lines, ⟨objects⟩, []⟩ := by
  have texts : ∀ pair ∈ (linesGraph lines).entries 0, (linesGraph lines).tag pair.1 = Tag.text := by
    rw [root_entries]
    exact key_tag means (lines_stand lines)
  have merged := merged_plain texts fuel
  rw [root_entries] at merged
  have run : (Graph.merged (fuel + 1) 0).run (linesGraph lines) = .ok (pairs 1 lines, linesGraph lines) := merged
  refine Ends.bind (ends_get.mpr ⟨rfl, rfl⟩) ?_
  rw [run]
  exact Ends.bind rfl (Ends.bind (ends_set.mpr rfl) (ends_pure.mpr ⟨rfl, rfl⟩))

theorem entries_ends (means : ∀ line ∈ lines, Means line (meaning line)) (keys : (lines.map Line.key).Nodup) (fuel : Nat) :
    ∃ found, found.map (fun entry => (entry.1.value, entry.2)) = numbered 1 lines ∧
      Ends (entries (fuel + 1) 0)
        ⟨linesGraph lines, ⟨some (.dict []) :: lines.flatMap fun _ => [none, none]⟩, []⟩ found
        ⟨linesGraph lines, ⟨some (.dict []) :: lines.flatMap fun line => lineObjects line (meaning line)⟩, []⟩ := by
  obtain ⟨found, listed, mapped⟩ := @entries_mapM (linesGraph lines) lines [some (.dict [])] [] meaning means (lines_stand lines)
  refine ⟨found, listed, Ends.bind (ends_get.mpr ⟨rfl, rfl⟩) ?_⟩
  simp only [has_node (root_has lines)]
  refine Ends.bind (merging_lines means fuel) (Ends.bind mapped (ends_pure.mpr ⟨?_, rfl⟩))
  exact (puts_apart (numbered_apart keys listed)).symm

theorem none_met (lines : List Line) : (linesGraph lines).nodes.map (fun _ => (none : Option Object)) =
    ⟨none :: lines.flatMap fun _ => [none, none]⟩ := by
  refine Array.ext' ?_
  have nodes (more : List Line) : (linesNodes more).map (fun _ => (none : Option Object)) = more.flatMap fun _ => [none, none] := by
    rw [linesNodes, List.map_flatMap]
    rfl
  simp [linesGraph, rooted, nodes]

theorem ofGraph_lines (means : ∀ line ∈ lines, Means line (meaning line)) (keys : (lines.map Line.key).Nodup) :
    ∃ found, found.map (fun entry => (entry.1.value, entry.2)) = numbered 1 lines ∧
      ofGraph (linesGraph lines) 0 =
        .ok ⟨⟨some (.dict found) :: lines.flatMap fun line => lineObjects line (meaning line)⟩, 0⟩ := by
  let unmet : List (Option Object) := lines.flatMap fun _ => [none, none]
  let met : List (Option Object) := lines.flatMap fun line => lineObjects line (meaning line)
  obtain ⟨found, listed, run⟩ := entries_ends means keys ((linesGraph lines).merges)
  have size : (linesGraph lines).nodes.size + 1 = (linesNodes lines).length + 2 := by
    simp only [linesGraph, rooted, Array.size_eq_length_toList, Array.toList_appendList, List.cons_append, List.length_cons,
      List.nil_append]
  have opened : Ends (meet 0) ⟨linesGraph lines, ⟨none :: unmet⟩, []⟩ ⟨⟩ ⟨linesGraph lines, ⟨some (.dict []) :: unmet⟩, [0]⟩ := by
    refine Ends.bind (ends_get.mpr ⟨rfl, rfl⟩) ?_
    simp only [root_tag]
    exact Ends.bind (@put_ends (linesGraph lines) [] unmet [] (.dict [])) (ends_modify.mpr rfl)
  have filled : Ends (fill ((linesGraph lines).merges + 1) 0) ⟨linesGraph lines, ⟨some (.dict []) :: unmet⟩, []⟩ ⟨⟩
      ⟨linesGraph lines, ⟨some (.dict found) :: met⟩, []⟩ := by
    refine Ends.bind (ends_get.mpr ⟨rfl, rfl⟩) (Ends.bind run (ends_modify.mpr ?_))
    rfl
  have all : Ends (fillAll ((linesGraph lines).merges + 1) ((linesGraph lines).nodes.size + 1))
      ⟨linesGraph lines, ⟨some (.dict []) :: unmet⟩, [0]⟩ ⟨⟩ ⟨linesGraph lines, ⟨some (.dict found) :: met⟩, []⟩ := by
    rw [size]
    refine Ends.bind (ends_get.mpr ⟨rfl, rfl⟩) (Ends.bind (ends_modify.mpr rfl) ?_)
    refine Ends.bind (Ends.bind filled (ends_pure.mpr ⟨rfl, rfl⟩)) ?_
    exact Ends.bind (ends_get.mpr ⟨rfl, rfl⟩) (ends_pure.mpr ⟨rfl, rfl⟩)
  have built : (do meet 0; fillAll ((linesGraph lines).merges + 1) ((linesGraph lines).nodes.size + 1) : Building Unit).run
      ⟨linesGraph lines, ⟨none :: unmet⟩, []⟩ = .ok ((), ⟨linesGraph lines, ⟨some (.dict found) :: met⟩, []⟩) :=
    Ends.bind opened all
  refine ⟨found, listed, ?_⟩
  rw [ofGraph, none_met]
  dsimp only
  rw [built]
  rfl

theorem numbered_values (document : Document) (front : List (Option Object))
    (objects : document.objects = ⟨front ++ lines.flatMap fun line => lineObjects line (meaning line)⟩) :
    (numbered front.length lines).map (fun entry => (entry.1, document.value entry.2)) =
      lines.map fun line => (.text (.ofList line.key), meaning line) := by
  induction lines generalizing front with
  | nil => rfl
  | cons line lines ih =>
    have value : document.value (front.length + 1) = meaning line := by
      have object : document.object (front.length + 1) = .scalar (meaning line) := by
        simp [Document.object, objects, lineObjects, Array.getD_eq_getD_getElem?]
      rw [Document.value, Document.unfold, object]
    have longer : (front ++ lineObjects line (meaning line)).length = front.length + 2 := List.length_append
    have others := ih (front ++ lineObjects line (meaning line)) (by simp [objects])
    rw [longer] at others
    rw [numbered, List.map_cons, List.map_cons, others, value]

theorem read_entries (fits : ∀ line ∈ lines, line.Fits) (filled : lines ≠ []) (keys : (lines.map Line.key).Nodup)
    (means : ∀ line ∈ lines, Means line (meaning line)) {content : ByteArray}
    (source : Source.ofBytes content = .ofText (linesText lines)) :
    ∃ document, Yaml.read content = .ok document ∧
      document.entries?.map (·.map fun (key, id) => (key, document.value id)) =
        some (lines.map fun line => (.text (.ofList line.key), meaning line)) := by
  obtain ⟨found, listed, made⟩ := ofGraph_lines means keys
  let document : Document := ⟨⟨some (.dict found) :: lines.flatMap fun line => lineObjects line (meaning line)⟩, 0⟩
  have object : document.object document.root = .dict found := rfl
  refine ⟨document, ?_, ?_⟩
  · rw [Yaml.read, source, read_lines fits filled]
    exact made
  · rw [← numbered_values document [some (.dict found)] rfl, Document.entries?, object]
    dsimp only
    rw [listed]
    rfl

end TermStyle.Proofs.FlatDocument
