import TermStyle.Proofs.LineTokens
import TermStyle.Yaml.Graph.Reading

/-! The graph of a document of lines: a mapping with two scalars for each line. -/

namespace TermStyle.Proofs.FlatGraph
open Yaml Graph Reading StateSteps ScanRun LineTokens

variable {state : State} {lexer : Lexer} {token head : Token} {α : Type}

def dropped (lexer : Lexer) : Lexer := { lexer with queue := lexer.queue.drop 1, taken := lexer.taken + 1 }

theorem lexing_ends {step : Lexing α} {value : α} (ends : Ends step state.lexer value lexer) :
    Ends (lexing step) state value { state with lexer } := by
  have run : step.run state.lexer = .ok (value, lexer) := ends
  refine Ends.bind (ends_get.mpr ⟨rfl, rfl⟩) ?_
  rw [run]
  exact Ends.bind rfl (Ends.bind (ends_set.mpr rfl) (ends_pure.mpr ⟨rfl, rfl⟩))

theorem drop_ends : Ends drop state ⟨⟩ { state with lexer := dropped state.lexer } := lexing_ends (ends_modify.mpr rfl)

theorem accept_ends (looked : Ends Lexer.peek state.lexer token lexer) :
    Ends (accept token) state true { state with lexer := dropped lexer } := by
  refine Ends.bind (lexing_ends looked) ?_
  rw [if_pos rfl]
  exact Ends.bind drop_ends (ends_pure.mpr ⟨rfl, rfl⟩)

theorem accept_other (looked : Ends Lexer.peek state.lexer head lexer) (other : head ≠ token) :
    Ends (accept token) state false { state with lexer } := by
  refine Ends.bind (lexing_ends looked) ?_
  rw [if_neg other]
  exact ends_pure.mpr ⟨rfl, rfl⟩

theorem expect_ends (looked : Ends Lexer.peek state.lexer token lexer) :
    Ends (expect token) state ⟨⟩ { state with lexer := dropped lexer } :=
  Ends.bind (accept_ends looked) (ends_pure.mpr ⟨rfl, rfl⟩)

theorem node_scalar {text : String} {isPlain : Bool} (looked : Ends Lexer.peek state.lexer (.scalar text isPlain) lexer)
    (again : Ends Lexer.peek lexer (.scalar text isPlain) lexer) (fuel : Nat) (block indentless : Bool) :
    Ends (node (fuel + 1) block indentless) state state.graph.nodes.size
      { state with lexer := dropped lexer, graph := state.graph.add (.scalar (scalarTag none text isPlain) text) } := by
  have seen : Ends peek { state with lexer } (.scalar text isPlain) { state with lexer } := lexing_ends again
  refine Ends.bind (lexing_ends looked) ?_
  refine Ends.bind (Ends.bind seen (ends_pure.mpr ⟨rfl, rfl⟩)) (Ends.bind seen (Ends.bind drop_ends ?_))
  exact Ends.bind (ends_get.mpr ⟨rfl, rfl⟩) (Ends.bind (ends_set.mpr rfl) (ends_pure.mpr ⟨rfl, rfl⟩))

/-! ## Lines -/

/-- A key with a value, which is written as one word or between double quotes. -/
structure Line where
  key : List Char
  value : List Char
  isPlain : Bool

namespace Line

def written (line : Line) : List Char := if line.isPlain then line.value else '"' :: (line.value.flatMap spelled ++ ['"'])

def text (line : Line) : List Char := line.key ++ ':' :: ' ' :: (line.written ++ ['\n'])

def nodes (line : Line) : List Node := [
  .scalar (scalarTag none (.ofList line.key) true) (.ofList line.key),
  .scalar (scalarTag none (.ofList line.value) line.isPlain) (.ofList line.value)]

/-- Words where there are words, and nothing that would be read as anything but itself. -/
structure Fits (line : Line) : Prop where
  key : ∀ c ∈ line.key, isWordly c = true
  named : line.key ≠ []
  short : line.key.length ≤ Lexer.keyLimit
  plain : line.isPlain = true → (∀ c ∈ line.value, isWordly c = true) ∧ line.value ≠ []
  quoted : line.isPlain = false → ∀ c ∈ line.value, isWordly c = true ∨ c = dotless

end Line

def linesText (lines : List Line) : List Char := lines.flatMap Line.text

def linesNodes (lines : List Line) : List Node := lines.flatMap Line.nodes

/-- The entries of the mapping, where the nodes of the first line have the numbers from `id` on. -/
def pairs (id : Nat) : List Line → List (Nat × Nat)
  | [] => []
  | _ :: lines => (id, id + 1) :: pairs (id + 2) lines

variable {line : Line} {lines : List Line} {size taken : Nat} {tail : List Char}

theorem linesText_fresh (fits : ∀ line ∈ lines, line.Fits) : Fresh (linesText lines) := by
  cases lines with
  | nil => nofun
  | cons line lines =>
    have own := fits line (by simp)
    obtain ⟨first, more, same⟩ := List.exists_cons_of_ne_nil own.named
    intro c head
    have there : c = first := by simpa [linesText, Line.text, same] using head.symm
    rw [there]
    exact own.key first (by simp [same])

/-- The key of a line is at the head, with all up to its value behind it. -/
def Opens (lexer : Lexer) (line : Line) (tail : List Char) (size taken : Nat) : Prop :=
  ∃ index row column, Ends Lexer.peek lexer .key
    (held ⟨' ' :: (line.written ++ '\n' :: tail), none, size + 1, index, row, column⟩ false
      [.key, .scalar (.ofList line.key) true, .value] taken)

theorem opens_line (fits : line.Fits) (comes : Comes lexer 0 [-1] (line.text ++ tail) size taken) :
    Opens lexer line tail size taken := by
  have same : line.text ++ tail = line.key ++ ':' :: ' ' :: (line.written ++ '\n' :: tail) := by simp [Line.text]
  rw [same] at comes
  exact peek_line comes .inside fits.key fits.named fits.short

theorem peek_value (fits : line.Fits) (fresh : Fresh tail) (enough : line.value.length ≤ size + 1) {index row column : Nat} :
    ∃ after, Ends Lexer.peek (held ⟨' ' :: (line.written ++ '\n' :: tail), none, size + 1, index, row, column⟩ false [] taken)
        (.scalar (.ofList line.value) line.isPlain) after ∧
      Ends Lexer.peek after (.scalar (.ofList line.value) line.isPlain) after ∧
      Comes (dropped after) 0 [-1] tail size (taken + 1) := by
  unfold Line.written
  cases plain : line.isPlain with
  | true =>
    obtain ⟨wordly, filled⟩ := fits.plain plain
    exact ⟨_, peek_word wordly filled fresh, peek_settled (held_settled (by simp)) rfl, comes_line fresh⟩
  | false =>
    have same : '"' :: (line.value.flatMap spelled ++ ['"']) ++ '\n' :: tail =
        '"' :: (line.value.flatMap spelled ++ '"' :: '\n' :: tail) := by simp
    rw [if_neg (by simp), same]
    obtain ⟨_, _, looked⟩ := peek_quoted (fits.quoted plain) enough
    exact ⟨_, looked, peek_settled (held_settled (by simp)) rfl, comes_feed fresh⟩

/-! ## Entries -/

theorem part_scalar {text : String} {isPlain : Bool} (looked : Ends Lexer.peek state.lexer (.scalar text isPlain) lexer)
    (again : Ends Lexer.peek lexer (.scalar text isPlain) lexer) (fuel : Nat) :
    Ends (blockPart (fuel + 2)) state state.graph.nodes.size
      { state with lexer := dropped lexer, graph := state.graph.add (.scalar (scalarTag none text isPlain) text) } := by
  refine Ends.bind (Ends.bind (lexing_ends looked) (ends_pure.mpr ⟨rfl, rfl⟩)) ?_
  exact @node_scalar { state with lexer } lexer text isPlain again again fuel true true

theorem size_add (graph : Graph) (node : Yaml.Node) : (graph.add node).nodes.size = graph.nodes.size + 1 := Array.size_push _

theorem entries_line (fits : line.Fits) (fresh : Fresh tail) (enough : line.value.length ≤ size + 1)
    (opens : Opens state.lexer line tail size taken) (fuel : Nat) :
    ∃ lexer, Comes lexer 0 [-1] tail size (taken + 4) ∧ ∀ {found after},
      Ends (blockEntries (fuel + 2)) { state with lexer, graph := ⟨state.graph.nodes ++ line.nodes⟩ } found after →
      Ends (blockEntries (fuel + 3)) state ((state.graph.nodes.size, state.graph.nodes.size + 1) :: found) after := by
  obtain ⟨index, row, column, looked⟩ := opens
  obtain ⟨lexer, valued, again, comes⟩ := @peek_value line size (taken + 3) tail fits fresh enough index row column
  let cursor : Cursor := ⟨' ' :: (line.written ++ '\n' :: tail), none, size + 1, index, row, column⟩
  let keyed : Graph := state.graph.add (.scalar (scalarTag none (.ofList line.key) true) (.ofList line.key))
  let both : Graph := keyed.add (.scalar (scalarTag none (.ofList line.value) line.isPlain) (.ofList line.value))
  have settled (token : Token) (queue : List Token) (taken : Nat) :
      Ends Lexer.peek (held cursor false (token :: queue) taken) token (held cursor false (token :: queue) taken) :=
    peek_settled (held_settled (by simp)) rfl
  have opened : Ends (accept .key) state true
      { state with lexer := held cursor false [.scalar (.ofList line.key) true, .value] (taken + 1) } := accept_ends looked
  have key : Ends (blockPart (fuel + 2))
      { state with lexer := held cursor false [.scalar (.ofList line.key) true, .value] (taken + 1) } state.graph.nodes.size
      { state with lexer := held cursor false [.value] (taken + 2), graph := keyed } :=
    @part_scalar { state with lexer := held cursor false [.scalar (.ofList line.key) true, .value] (taken + 1) } _ _ _
      (settled _ _ _) (settled _ _ _) fuel
  have divided : Ends (accept .value) { state with lexer := held cursor false [.value] (taken + 2), graph := keyed } true
      { state with lexer := held cursor false [] (taken + 3), graph := keyed } :=
    @accept_ends { state with lexer := held cursor false [.value] (taken + 2), graph := keyed } _ _ (settled _ _ _)
  have value : Ends (blockPart (fuel + 2)) { state with lexer := held cursor false [] (taken + 3), graph := keyed }
      keyed.nodes.size { state with lexer := dropped lexer, graph := both } :=
    @part_scalar { state with lexer := held cursor false [] (taken + 3), graph := keyed } _ _ _ valued again fuel
  have nodes : both = ⟨state.graph.nodes ++ line.nodes⟩ := by simp [both, keyed, Graph.add, Line.nodes]
  refine ⟨_, comes, fun {found after} further => ?_⟩
  rw [← nodes] at further
  rw [blockEntries]
  refine Ends.bind opened (Ends.bind key (Ends.bind divided (Ends.bind value (Ends.bind further (ends_pure.mpr ⟨?_, rfl⟩)))))
  rw [size_add]

structure Finished (lexer : Lexer) : Prop where
  last : lexer.queue = [.streamEnd]
  ended : lexer.ended = true

theorem Finished.peek (finished : Finished lexer) : Ends Lexer.peek lexer .streamEnd lexer :=
  peek_settled (settled_ended finished.ended) finished.last

theorem entries_end (comes : Comes state.lexer 0 [-1] [] size taken) (fuel : Nat) :
    ∃ lexer, Finished lexer ∧ Ends (blockEntries (fuel + 1)) state [] { state with lexer } := by
  obtain ⟨index, row, looked⟩ := peek_end comes
  let done : Lexer := ⟨⟨[], none, size + 1, index, row, 0⟩, 0, -1, [], false, [], [.blockEnd, .streamEnd], taken, true⟩
  have again : Ends Lexer.peek done .blockEnd done := peek_settled (settled_ended rfl) rfl
  refine ⟨dropped done, ⟨rfl, rfl⟩, ?_⟩
  rw [blockEntries]
  have closed : Ends (expect .blockEnd) { state with lexer := done } ⟨⟩ { state with lexer := dropped done } := expect_ends again
  exact Ends.bind (accept_other looked (by decide)) (Ends.bind closed (ends_pure.mpr ⟨rfl, rfl⟩))

/-- Each line adds two nodes, so the numbers of the others are counted from a later one. -/
theorem entries_lines (fits : ∀ line ∈ lines, line.Fits) (enough : ∀ line ∈ lines, line.value.length ≤ size + 1)
    (comes : Comes state.lexer 0 [-1] (linesText lines) size taken) (fuel : Nat) :
    ∃ lexer, Finished lexer ∧ Ends (blockEntries (lines.length + fuel + 2)) state (pairs state.graph.nodes.size lines)
      { state with lexer, graph := ⟨state.graph.nodes ++ linesNodes lines⟩ } := by
  induction lines generalizing state taken with
  | nil =>
    have same : (⟨state.graph.nodes ++ linesNodes []⟩ : Graph) = state.graph := by simp [linesNodes]
    rw [same]
    exact entries_end comes _
  | cons line lines ih =>
    have others : ∀ other ∈ lines, other.Fits := fun other member => fits other (by simp [member])
    obtain ⟨middle, comes, further⟩ := entries_line (fits line (by simp)) (linesText_fresh others) (enough line (by simp))
      (opens_line (fits line (by simp)) comes) (lines.length + fuel)
    obtain ⟨last, finished, run⟩ := @ih { state with lexer := middle, graph := ⟨state.graph.nodes ++ line.nodes⟩ } _ others
      (fun other member => enough other (by simp [member])) comes
    have nodes : state.graph.nodes ++ linesNodes (line :: lines) = state.graph.nodes ++ line.nodes ++ linesNodes lines :=
      Array.ext' (by simp [linesNodes])
    have count : (line :: lines).length + fuel + 2 = lines.length + fuel + 3 := by
      rw [List.length_cons]
      omega
    have numbers : (state.graph.nodes ++ line.nodes).size = state.graph.nodes.size + 2 := by simp [Line.nodes]
    refine ⟨last, finished, ?_⟩
    rw [nodes, count]
    simp only [numbers] at run
    exact further run

/-! ## The document -/

theorem spelled_length (text : List Char) : text.length ≤ (text.flatMap spelled).length := by
  induction text with
  | nil => exact Nat.le_refl 0
  | cons c text ih =>
    have one : 1 ≤ (spelled c).length := by
      unfold spelled
      split
      · decide
      · exact Nat.le_refl 1
    simp only [List.flatMap_cons, List.length_append, List.length_cons]
    omega

theorem written_length (line : Line) : line.value.length ≤ line.written.length := by
  unfold Line.written
  split
  · exact Nat.le_refl _
  · have spelt := spelled_length line.value
    simp only [List.length_append, List.length_cons]
    omega

theorem value_length (member : line ∈ lines) : line.value.length ≤ (linesText lines).length := by
  have own : line.text.length ≤ (linesText lines).length := by
    obtain ⟨front, back, rfl⟩ := List.append_of_mem member
    simp only [linesText, List.flatMap_append, List.flatMap_cons, List.length_append]
    omega
  have wrote := written_length line
  simp only [Line.text, List.length_append, List.length_cons] at own
  omega

theorem lines_length (lines : List Line) : lines.length ≤ (linesText lines).length := by
  induction lines with
  | nil => exact Nat.le_refl 0
  | cons line lines ih =>
    simp only [linesText, List.flatMap_cons, Line.text, List.length_append, List.length_cons] at ih ⊢
    omega

/-- A mapping at the root, and the other nodes behind it. -/
def rooted (entries : List (Nat × Nat)) (nodes : List Yaml.Node) : Graph := ⟨#[Yaml.Node.mapping Tag.mapping entries] ++ nodes⟩

def linesGraph (lines : List Line) : Graph := rooted (pairs 1 lines) (linesNodes lines)

theorem putEntries_rooted (nodes : List Yaml.Node) (entries : List (Nat × Nat)) :
    (rooted [] nodes).putEntries 0 entries = rooted entries nodes := by
  have tagged : (rooted [] nodes).tag 0 = Tag.mapping := by simp [rooted, Graph.tag, Graph.node, Yaml.Node.tag, Array.getD]
  rw [Graph.putEntries, tagged]
  exact congrArg Yaml.Graph.mk (Array.ext' (by simp [rooted]))

/-- The root of a document of lines is a mapping, which is read before it is filled. -/
theorem root_lines (fits : line.Fits) (others : ∀ line ∈ lines, line.Fits)
    (enough : ∀ other ∈ line :: lines, other.value.length ≤ size + 1) (fuel : Nat) {handles : List (String × String)}
    (looked : Ends Lexer.peek lexer .blockMappingStart lexer)
    (opens : Opens (dropped lexer) line (linesText lines) size taken) :
    ∃ last, Finished last ∧ Ends (node (lines.length + fuel + 4) true false) ⟨lexer, handles, [], ⟨#[]⟩, 0⟩ 0
      ⟨last, handles, [], linesGraph (line :: lines), 0⟩ := by
  let before : State := ⟨lexer, handles, [], ⟨#[]⟩, 0⟩
  let inside : State := ⟨dropped lexer, handles, [], rooted [] [], 1⟩
  have first : line.value.length ≤ size + 1 := enough line (by simp)
  obtain ⟨middle, comes, further⟩ :=
    @entries_line inside line size taken _ fits (linesText_fresh others) first opens (lines.length + fuel)
  obtain ⟨last, finished, run⟩ := @entries_lines { inside with lexer := middle, graph := ⟨inside.graph.nodes ++ line.nodes⟩ }
    lines size _ others (fun other member => enough other (by simp [member])) comes fuel
  have entries := further run
  have seen : Ends peek before .blockMappingStart before := @lexing_ends before lexer _ _ _ looked
  have added : Ends (add none (.mapping Tag.mapping [])) before 0 { inside with lexer := lexer, depth := 0 } :=
    Ends.bind (ends_get.mpr ⟨rfl, rfl⟩) (Ends.bind (ends_set.mpr rfl) (ends_pure.mpr ⟨rfl, rfl⟩))
  have dropping : Ends drop { inside with lexer := lexer } ⟨⟩ inside := drop_ends
  have nesting : Ends (nested (do drop; blockEntries (lines.length + fuel + 3))) { inside with lexer := lexer, depth := 0 }
      (pairs 1 (line :: lines)) ⟨last, handles, [], rooted [] (linesNodes (line :: lines)), 0⟩ := by
    refine Ends.bind (ends_get.mpr ⟨rfl, rfl⟩) (Ends.bind (ends_modify.mpr rfl) ?_)
    refine Ends.bind (Ends.bind dropping entries) (Ends.bind (ends_modify.mpr rfl) (ends_pure.mpr ⟨rfl, rfl⟩))
  have made : Ends (mapping ⟨none, none⟩ (do drop; blockEntries (lines.length + fuel + 3))) before 0
      ⟨last, handles, [], linesGraph (line :: lines), 0⟩ := by
    refine Ends.bind added (Ends.bind nesting (Ends.bind (ends_modify.mpr rfl) (ends_pure.mpr ⟨rfl, ?_⟩)))
    rw [linesGraph, ← putEntries_rooted]
  refine ⟨last, finished, ?_⟩
  exact Ends.bind seen (Ends.bind (Ends.bind seen (ends_pure.mpr ⟨rfl, rfl⟩)) (Ends.bind seen made))

/-- A document of lines stands for its graph of lines. -/
theorem document_lines (fits : line.Fits) (others : ∀ line ∈ lines, line.Fits)
    (sized : (linesText (line :: lines)).length = size + 1) (fuel : Nat) {handles : List (String × String)} :
    ∃ last, Ends (document (lines.length + fuel + 4)) ⟨.start (.ofText (linesText (line :: lines))), handles, [], ⟨#[]⟩, 0⟩
      (some 0) ⟨last, handles, [], linesGraph (line :: lines), 0⟩ := by
  have fresh : Fresh (linesText (line :: lines)) := linesText_fresh (by simpa using ⟨fits, others⟩)
  have comes : Comes (.start (.ofText (linesText (line :: lines)))) (-1) [] (line.text ++ linesText lines) size 0 :=
    comes_start fresh sized
  have same : line.text ++ linesText lines = line.key ++ ':' :: ' ' :: (line.written ++ '\n' :: linesText lines) := by
    simp [Line.text]
  rw [same] at comes
  obtain ⟨index, row, column, looked⟩ := peek_line comes .outside fits.key fits.named fits.short
  let started : Lexer := held ⟨' ' :: (line.written ++ '\n' :: linesText lines), none, size + 1, index, row, column⟩ false
    [.blockMappingStart, .key, .scalar (.ofList line.key) true, .value] 0
  have again : Ends Lexer.peek started .blockMappingStart started := peek_settled (held_settled (by simp)) rfl
  have opens : Opens (dropped started) line (linesText lines) size 1 :=
    ⟨index, row, column, peek_settled (held_settled (List.cons_ne_nil _ _)) rfl⟩
  have enough : ∀ other ∈ line :: lines, other.value.length ≤ size + 1 := fun other member => sized ▸ value_length member
  obtain ⟨last, finished, read⟩ := @root_lines started line lines size 1 fits others enough fuel handles again opens
  let after : State := ⟨last, handles, [], linesGraph (line :: lines), 0⟩
  have first : Ends peek ⟨.start (.ofText (linesText (line :: lines))), handles, [], ⟨#[]⟩, 0⟩ .blockMappingStart
    ⟨started, handles, [], ⟨#[]⟩, 0⟩ := lexing_ends looked
  have second : Ends peek ⟨started, handles, [], ⟨#[]⟩, 0⟩ .blockMappingStart ⟨started, handles, [], ⟨#[]⟩, 0⟩ := lexing_ends again
  have seen : Ends peek after .streamEnd after := @lexing_ends after last _ _ _ finished.peek
  have other : Ends (accept .documentEnd) after false after := @accept_other after last _ _ finished.peek (by decide)
  refine ⟨last, Ends.bind first (Ends.bind (Ends.bind second read) ?_)⟩
  exact Ends.bind (Ends.bind other (ends_pure.mpr ⟨rfl, rfl⟩)) (Ends.bind seen (ends_pure.mpr ⟨rfl, rfl⟩))

/-- The fuel is counted from the text, of which every line is a part, so it lasts for all lines. -/
theorem read_lines (fits : ∀ line ∈ lines, line.Fits) (filled : lines ≠ []) :
    Graph.read (.ofText (linesText lines)) = .ok (linesGraph lines, some 0) := by
  obtain ⟨line, more, rfl⟩ := List.exists_cons_of_ne_nil filled
  have long := lines_length (line :: more)
  rw [List.length_cons] at long
  have sized : (linesText (line :: more)).length = (linesText (line :: more)).length - 1 + 1 := by omega
  obtain ⟨last, run⟩ := @document_lines line more _ (fits line (by simp)) (fun other member => fits other (by simp [member])) sized
    (32 * ((linesText (line :: more)).length + 4) - more.length - 4) standardHandles
  have fuel : more.length + (32 * ((linesText (line :: more)).length + 4) - more.length - 4) + 4 =
      32 * ((linesText (line :: more)).length + 4) := by omega
  rw [fuel] at run
  have ran : (document (32 * ((linesText (line :: more)).length + 4))).run _ = .ok (some 0, _) := run
  exact ExceptSteps.bind_ok_iff.mpr ⟨_, ran, rfl⟩

end TermStyle.Proofs.FlatGraph
