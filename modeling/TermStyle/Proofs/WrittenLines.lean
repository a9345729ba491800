import TermStyle.Proofs.FlatGraph
import TermStyle.Yaml.Writer

/-! How a mapping of short words is written: one line for each entry, in the order of the keys. -/

namespace TermStyle.Proofs.WrittenLines
open Yaml Writer ScanRun FlatGraph

variable {word : List Char} {line : Line} {value : Value} {page : Page}

theorem put_put (page : Page) (first second : List Char) : (page.put first).put second = page.put (first ++ second) := by
  simp [Page.put, String.append_assoc, String.ofList_append, Nat.add_assoc]

/-- A letter of a word is written as it is and starts nothing. -/
structure Bare (c : Char) : Prop where
  bare : isBare c = true
  printed : isPrinted c = true
  noSpace : isSpace c = false
  noBreak : isTextBreak c = false
  unlisted : c ∉ leading
  unmarked : c ∉ ['?', ':', '-', '#', '.']

theorem bare_of {c : Char} (wordly : isWordly c = true) : Bare c := by
  have facts : isBare c = true ∧ isPrinted c = true ∧ isSpace c = false ∧ isTextBreak c = false ∧ c ∉ leading ∧
      c ∉ ['?', ':', '-', '#', '.'] := by
    refine wordly_forall c wordly ?_
    decide +kernel
  obtain ⟨bare, printed, noSpace, noBreak, unlisted, unmarked⟩ := facts
  exact ⟨bare, printed, noSpace, noBreak, unlisted, unmarked⟩

theorem pieces_word (wordly : ∀ c ∈ word, isWordly c = true) (filled : word ≠ []) : pieces word = [.word word] := by
  induction word with
  | nil => exact absurd rfl filled
  | cons c rest ih =>
    have own := bare_of (wordly c (by simp))
    cases rest with
    | nil => simp [pieces, pieces.single, own.noSpace, own.noBreak]
    | cons d more =>
      rw [pieces, ih (fun e member => wordly e (by simp [member])) (List.cons_ne_nil _ _)]
      simp [own.noSpace, own.noBreak]

theorem follows_none {before after : Char → Bool} (none : ∀ c ∈ word, before c = false) : follows before after word = false := by
  induction word with
  | nil => rfl
  | cons c rest ih =>
    cases rest with
    | nil => rfl
    | cons d more =>
      rw [follows, none c (by simp), ih fun e member => none e (by simp [member])]
      rfl

theorem indicator_none (wordly : ∀ c ∈ word, isWordly c = true) (first afterBlank : Bool) :
    holdsIndicator first afterBlank word = false := by
  induction word generalizing first afterBlank with
  | nil => rfl
  | cons c rest ih =>
    have own := bare_of (wordly c (by simp))
    obtain ⟨question, colon, dash, hash, _⟩ : c ≠ '?' ∧ c ≠ ':' ∧ c ≠ '-' ∧ c ≠ '#' ∧ c ≠ '.' := by
      simpa using own.unmarked
    rw [holdsIndicator, ih fun d member => wordly d (by simp [member])]
    simp [isIndicator, own.unlisted, question, colon, dash, hash]

theorem prefix_none {mark : List Char} {c : Char} (head : mark.head? = some c) (absent : c ∉ word) : mark.isPrefixOf word = false := by
  by_contra front
  have inside := (List.isPrefixOf_iff_prefix.mp (Bool.not_eq_false _ |>.mp front)).subset (List.mem_of_head? head)
  exact absent inside

theorem edge_plain {edge : Option Char} (bare : ∀ c ∈ edge, Bare c) :
    edge.any (fun c => isSpace c || isTextBreak c) = false := by
  cases edge with
  | none => rfl
  | some c =>
    have own := bare c rfl
    simp [own.noSpace, own.noBreak]

theorem analyze_word (wordly : ∀ c ∈ word, isWordly c = true) :
    (analyze word).plain = true ∧ (analyze word).hasBreak = false := by
  have own (c : Char) (member : c ∈ word) : Bare c := bare_of (wordly c member)
  have printed : word.all isPrinted = true := List.all_eq_true.mpr fun c member => (own c member).printed
  have spaces : follows isSpace isTextBreak word = false := follows_none fun c member => (own c member).noSpace
  have breaks : follows isTextBreak isSpace word = false := follows_none fun c member => (own c member).noBreak
  have inline : word.any isTextBreak = false := List.any_eq_false.mpr fun c member => by simp [(own c member).noBreak]
  have dashes : "---".toList.isPrefixOf word = false :=
    @prefix_none _ _ '-' rfl fun member => (own _ member).unmarked (by simp)
  have points : "...".toList.isPrefixOf word = false :=
    @prefix_none _ _ '.' rfl fun member => (own _ member).unmarked (by simp)
  have head : word.head?.any (fun c => isSpace c || isTextBreak c) = false :=
    edge_plain fun c there => own c (List.mem_of_head? there)
  have last : word.getLast?.any (fun c => isSpace c || isTextBreak c) = false :=
    edge_plain fun c there => own c (List.mem_of_getLast? there)
  refine ⟨?_, inline⟩
  simp only [analyze, printed, spaces, breaks, inline, dashes, points, head, last, indicator_none wordly]
  rfl

theorem style_word (wordly : ∀ c ∈ word, isWordly c = true) (filled : word ≠ []) (inKey : Bool) :
    style word true inKey = .plain := by
  obtain ⟨plain, inline⟩ := analyze_word wordly
  have nonempty : (analyze word).isEmpty = false := by simpa [analyze] using filled
  simp [style, plain, inline, nonempty]

theorem style_dotless (inside : dotless ∈ word) (readsBack : Bool) : style word readsBack false = .doubleQuoted := by
  have unprinted : word.all isPrinted = false := List.all_eq_false.mpr ⟨dotless, inside, by decide⟩
  have plain : (analyze word).plain = false := by simp [analyze, unprinted]
  have single : (analyze word).singleQuoted = false := by simp [analyze, unprinted]
  simp [style, plain, single]

theorem escaped_dotless : escaped dotless = "\\u0131".toList := by decide +kernel

/-- A short text is written between its quotes on one line. -/
theorem double_pieces {text : List Char} (letters : ∀ c ∈ text, isWordly c = true ∨ c = dotless) (indent length index : Nat)
    (splits : Bool) (run : List Char) (room : page.column + run.length + (text.flatMap spelled).length ≤ width) :
    doublePieces indent splits length index text run page = page.put (run ++ text.flatMap spelled) := by
  induction text generalizing index run page with
  | nil => rw [doublePieces, List.flatMap_nil, List.append_nil]
  | cons c rest ih =>
    rw [List.flatMap_cons, List.length_append] at room
    have others : ∀ d ∈ rest, isWordly d = true ∨ d = dotless := fun d member => letters d (by simp [member])
    rcases letters c (by simp) with wordly | rfl
    · have bare := (bare_of wordly).bare
      have same : spelled c = [c] := spelled_wordly wordly
      rw [same, List.length_singleton] at room
      have fits : page.column + run.length ≤ width := by omega
      have later := @ih page others (index + 1) (run ++ [c]) (by rw [List.length_append, List.length_singleton]; omega)
      rw [doublePieces]
      simp [bare, fits, later, same]
    · have bare : isBare dotless = false := by decide
      have same : spelled dotless = escaped dotless := escaped_dotless.symm
      rw [same] at room
      have column : (page.put (run ++ escaped dotless)).column = page.column + run.length + (escaped dotless).length := by
        simp [Page.put, Nat.add_assoc]
      have fits : (page.put (run ++ escaped dotless)).column ≤ width + 1 := by omega
      have later := @ih (page.put (run ++ escaped dotless)) others (index + 1) [] (by rw [column, List.length_nil]; omega)
      rw [doublePieces]
      simp [bare, fits, later, same, put_put]

/-! ## Entries -/

/-- What the value of a line is written as. -/
structure Writes (line : Line) (value : Value) : Prop where
  fits : line.Fits
  simple : isSimpleKey (.text (.ofList line.key)) = true
  key : Tag.ofPlain (.ofList line.key) = Tag.text
  scalar : ∃ tag, scalar? value = some (.ofList line.value, tag) ∧ (line.isPlain = true → Tag.ofPlain (.ofList line.value) = tag)
  dotless : line.isPlain = false → dotless ∈ line.value
  room : line.key.length + 3 + (line.value.flatMap spelled).length ≤ width

def fresh (text : List Char) : Page := ⟨.ofList text, 0, true, true⟩

def within (text : List Char) (column : Nat) : Page := ⟨.ofList text, column, false, false⟩

theorem within_line (text : List Char) (column : Nat) : (within text column).toIndent 0 = fresh (text ++ ['\n']) := by
  simp [within, fresh, Page.toIndent, Page.lineBreak, String.ofList_append, String.push_eq_append]

theorem write_scalar {text tag : String} (scalar : scalar? value = some (text, tag)) (fuel : Nat) (inMapping : Bool)
    (indent : Option Nat) : write (fuel + 1) value inMapping indent page = writeKnown value false (indent.getD 0) page := by
  cases value with
  | null | bool | int | float | text | date | moment | bytes => simp only [write]
  | tuple | list | set | dict | cycle => cases scalar

theorem key_written (wordly : ∀ c ∈ word, isWordly c = true) (filled : word ≠ []) (text : List Char) (indent : Nat) (splits : Bool) :
    writePlain word indent splits (fresh text) = within (text ++ word) word.length := by
  simp [writePlain, filled, pieces_word wordly filled, plainPieces, fresh, within, Page.put, String.ofList_append]

theorem within_put (text piece : List Char) (column : Nat) :
    (within text column).put piece = within (text ++ piece) (column + piece.length) := by
  simp [within, Page.put, String.ofList_append]

theorem mark_written (mark : Char) (text : List Char) (column : Nat) :
    (within text column).indicator mark false false false = within (text ++ [mark]) (column + 1) := by
  simp [Page.indicator, within, Page.put, String.ofList_append]

theorem plain_written (wordly : ∀ c ∈ word, isWordly c = true) (filled : word ≠ []) (text : List Char) (column indent : Nat)
    (splits : Bool) : writePlain word indent splits (within text column) = within (text ++ ' ' :: word) (column + 1 + word.length) := by
  simp [writePlain, filled, pieces_word wordly filled, plainPieces, within, Page.put, String.ofList_append, String.append_assoc]

theorem quoted_written (letters : ∀ c ∈ word, isWordly c = true ∨ c = dotless) (text : List Char) {column : Nat}
    (room : column + 2 + (word.flatMap spelled).length ≤ width) (indent : Nat) (splits : Bool) :
    ∃ reached, writeDouble word indent splits (within text column) =
      within (text ++ ' ' :: '"' :: (word.flatMap spelled ++ ['"'])) reached := by
  have opened : (within text column).indicator '"' true false false = within (text ++ [' ', '"']) (column + 2) := by
    simp [Page.indicator, within, Page.put, String.ofList_append]
  have inside := @double_pieces (within (text ++ [' ', '"']) (column + 2)) word letters indent word.length 0 splits []
    (by simpa [within] using room)
  have chars : text ++ ' ' :: '"' :: (word.flatMap spelled ++ ['"']) =
      text ++ [' ', '"'] ++ ([] ++ word.flatMap spelled) ++ ['"'] := by simp
  rw [writeDouble, opened, inside, chars, within_put, mark_written]
  exact ⟨_, rfl⟩

theorem value_written (writes : Writes line value) (text : List Char) (fuel : Nat) :
    ∃ reached, write (fuel + 1) value true (some 0) (within text (line.key.length + 1)) =
      within (text ++ ' ' :: line.written) reached := by
  obtain ⟨tag, scalar, readsBack⟩ := writes.scalar
  rw [write_scalar scalar, writeKnown, scalar]
  unfold Line.written
  simp only [writeScalar, String.toList_ofList]
  cases plain : line.isPlain with
  | true =>
    obtain ⟨wordly, filled⟩ := writes.fits.plain plain
    rw [readsBack plain, beq_self_eq_true, style_word wordly filled]
    exact ⟨_, plain_written wordly filled text _ _ _⟩
  | false =>
    rw [style_dotless (writes.dotless plain)]
    exact quoted_written (writes.fits.quoted plain) text writes.room _ _

theorem entry_written (writes : Writes line value) {text : List Char} (begins : page.toIndent 0 = fresh text) (fuel : Nat) :
    (write.writeEntry (fuel + 1) 0 page (.text (.ofList line.key), value)).toIndent 0 = fresh (text ++ line.text) := by
  have key : writeKnown (.text (.ofList line.key)) true 0 (fresh text) = within (text ++ line.key) line.key.length := by
    have known : scalar? (.text (.ofList line.key)) = some (.ofList line.key, Tag.text) := rfl
    rw [writeKnown, known]
    simp only [writeScalar, String.toList_ofList, writes.key, beq_self_eq_true, style_word writes.fits.key writes.fits.named]
    exact key_written writes.fits.key writes.fits.named text _ _
  obtain ⟨reached, own⟩ := value_written writes (text ++ line.key ++ [':']) fuel
  rw [write.writeEntry]
  dsimp only
  rw [begins, if_pos writes.simple, key, mark_written, own, within_line]
  simp [Line.text]

variable {lines : List Line} {meaning : Line → Value}

theorem lines_written (writes : ∀ line ∈ lines, Writes line (meaning line)) {text : List Char} (begins : page.toIndent 0 = fresh text)
    (fuel : Nat) :
    ((lines.map fun line => (Value.text (.ofList line.key), meaning line)).foldl (write.writeEntry (fuel + 1) 0) page).toIndent 0 =
      fresh (text ++ linesText lines) := by
  induction lines generalizing page text with
  | nil => simpa [linesText] using begins
  | cons line lines ih =>
    have own := entry_written (writes line (by simp)) begins fuel
    rw [List.map_cons, List.foldl_cons, ih (fun other member => writes other (by simp [member])) own]
    simp [linesText]

theorem document_written (writes : ∀ line ∈ lines, Writes line (meaning line)) (filled : lines ≠ [])
    (order : sorted (lines.map fun line => (.text (.ofList line.key), meaning line)) =
      lines.map fun line => (.text (.ofList line.key), meaning line)) :
    document (.dict (lines.map fun line => (.text (.ofList line.key), meaning line))) = .ofList (linesText lines) := by
  obtain ⟨line, more, rfl⟩ := List.exists_cons_of_ne_nil filled
  have begins : Page.start.toIndent 0 = fresh [] := rfl
  have written := lines_written writes begins (entryHeights ((line :: more).map fun line => (.text (.ofList line.key), meaning line)))
  rw [document, height, write]
  · simp only [order]
    exact congrArg Page.text written
  · exact List.cons_ne_nil _ _

end TermStyle.Proofs.WrittenLines
