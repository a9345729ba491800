import TermStyle.Proofs.DocumentSource
import TermStyle.Proofs.FlatDocument
import TermStyle.Proofs.LogLevelLetters
import TermStyle.Proofs.SettingsSources
import TermStyle.Proofs.WrittenLines
import TermStyle.Settings.Apply

/-! The document that settings are written as. It has a line for each setting that is not unset, and is read back as these
settings. -/

namespace TermStyle.Proofs.SettingsLines
open Text CaseMap Yaml ScanRun FlatGraph FlatDocument WrittenLines LogLevelLetters SettingsRun

def line? : String × Value → Option Line
  | (name, .text text) => some ⟨name.toList, text.toList, !text.toList.contains dotless⟩
  | (name, .int number) => some ⟨name.toList, (toString number).toList, true⟩
  | _ => none

def settingsLines (settings : Settings) : List Line := settings.fields.filterMap line?

def meaning (settings : Settings) (line : Line) : Value := (settings.fields.lookup (.ofList line.key)).getD .null

structure Named (name : String) : Prop where
  wordly : ∀ c ∈ name.toList, isWordly c = true
  filled : name.toList ≠ []
  simple : Writer.isSimpleKey (.text name) = true
  text : Tag.ofPlain name = Tag.text
  short : name.toList.length ≤ 10
  known : Settings.namesField (.text name) = true

theorem fields_named {name : String} (listed : name ∈ ["color_mode", "level", "log_level"]) : Named name := by
  have facts : ∀ name ∈ ["color_mode", "level", "log_level"], name.toList.all isWordly = true ∧ name.toList ≠ [] ∧
      Writer.isSimpleKey (.text name) = true ∧ Tag.ofPlain name = Tag.text ∧ name.toList.length ≤ 10 ∧
      Settings.namesField (.text name) = true := by decide +kernel
  obtain ⟨wordly, filled, simple, text, short, known⟩ := facts name listed
  exact ⟨List.all_eq_true.mp wordly, filled, simple, text, short, known⟩

variable {name : String} {word : List Char} {value : Value} {tag : String}

/-- A line that is written for a value and read as that value. -/
def Settles (line : Line) (value : Value) : Prop := Writes line value ∧ Means line value

theorem word_settles (named : Named name) (wordly : ∀ c ∈ word, isWordly c = true) (filled : word ≠ []) (short : word.length ≤ 8)
    (scalar : Writer.scalar? value = some (.ofList word, tag)) (form : Tag.ofPlain (.ofList word) = tag)
    (reads : ∃ reader, Scalar.readers.lookup tag = some reader ∧ reader (.ofList word) = .ok value) :
    Settles ⟨name.toList, word, true⟩ value := by
  have room := named.short
  have key : String.ofList name.toList = name := String.ofList_toList
  refine ⟨⟨⟨named.wordly, named.filled, ?_, fun _ => ⟨wordly, filled⟩, nofun⟩, ?_, ?_, ⟨tag, scalar, fun _ => form⟩, nofun, ?_⟩, ⟨?_, ?_⟩⟩
  · dsimp only [Lexer.keyLimit]
    omega
  · rw [key]
    exact named.simple
  · rw [key]
    exact named.text
  · rw [spelled_word wordly]
    dsimp only [Writer.width]
    omega
  · rw [key]
    exact named.text
  · have same : Graph.Reading.scalarTag none (.ofList word) true = tag := form
    rw [same]
    exact reads

theorem spelled_long (word : List Char) : (word.flatMap spelled).length ≤ 6 * word.length := by
  induction word with
  | nil => exact Nat.le_refl 0
  | cons c rest ih =>
    have one : (spelled c).length ≤ 6 := by
      unfold spelled
      split
      · decide
      · exact Nat.le_add_left 1 5
    rw [List.flatMap_cons, List.length_append, List.length_cons]
    omega

theorem quoted_settles (named : Named name) (letters : ∀ c ∈ word, isWordly c = true ∨ c = dotless) (inside : dotless ∈ word)
    (short : word.length ≤ 8) : Settles ⟨name.toList, word, false⟩ (.text (.ofList word)) := by
  have room := named.short
  have long := spelled_long word
  have key : String.ofList name.toList = name := String.ofList_toList
  refine ⟨⟨⟨named.wordly, named.filled, ?_, nofun, fun _ => letters⟩, ?_, ?_, ⟨Tag.text, rfl, nofun⟩, fun _ => inside, ?_⟩,
    ⟨?_, ⟨_, rfl, rfl⟩⟩⟩
  · dsimp only [Lexer.keyLimit]
    omega
  · rw [key]
    exact named.simple
  · rw [key]
    exact named.text
  · dsimp only [Writer.width]
    omega
  · rw [key]
    exact named.text

variable {text : String}

theorem text_reader : Scalar.readers.lookup Tag.text = some fun text => .ok (.text text) := rfl

theorem int_reader : Scalar.readers.lookup Tag.int = some Scalar.int := rfl

theorem text_settles (named : Named name) (wordly : ∀ c ∈ text.toList, isWordly c = true) (filled : text.toList ≠ [])
    (short : text.toList.length ≤ 8) (form : Tag.ofPlain text = Tag.text) :
    Settles ⟨name.toList, text.toList, !text.toList.contains dotless⟩ (.text text) := by
  have whole : String.ofList text.toList = text := String.ofList_toList
  have outside : dotless ∉ text.toList := fun inside => absurd (wordly dotless inside) (by decide)
  have scalar : Writer.scalar? (.text text) = some (.ofList text.toList, Tag.text) := by
    rw [whole]
    rfl
  have plain := word_settles named wordly filled short scalar (by rw [whole, form]) ⟨_, text_reader, by rw [whole]⟩
  simpa [outside] using plain

theorem level_settles (named : Named name) (listed : upper text ∈ Settings.logLevels) :
    Settles ⟨name.toList, text.toList, !text.toList.contains dotless⟩ (.text text) := by
  have letters : ∀ c ∈ text.toList, isWordly c = true ∨ c = dotless := fun c member => letter_cases (named_letters listed c member)
  by_cases inside : dotless ∈ text.toList
  · have quoted := quoted_settles named letters inside (named_length listed)
    rw [String.ofList_toList] at quoted
    simpa [inside] using quoted
  · refine text_settles named (fun c member => ?_) (named_filled listed) (named_length listed) (named_text listed)
    refine (letters c member).resolve_right ?_
    rintro rfl
    exact inside member

theorem mode_settles (named : Named name) (listed : text ∈ Settings.colorModes) :
    Settles ⟨name.toList, text.toList, !text.toList.contains dotless⟩ (.text text) := by
  have facts : ∀ mode ∈ Settings.colorModes, mode.toList.all isWordly = true ∧ mode.toList ≠ [] ∧ mode.toList.length ≤ 8 ∧
      Tag.ofPlain mode = Tag.text := by decide +kernel
  obtain ⟨wordly, filled, short, form⟩ := facts text listed
  exact text_settles named (List.all_eq_true.mp wordly) filled short form

theorem tier_settles (named : Named name) {number : Int} (least : 0 ≤ number) (greatest : number ≤ 3) :
    Settles ⟨name.toList, (toString number).toList, true⟩ (.int number) := by
  have whole : String.ofList (toString number).toList = toString number := String.ofList_toList
  have facts : ∀ number ∈ [0, 1, 2, 3], (toString (number : Int)).toList.all isWordly = true ∧
      (toString (number : Int)).toList ≠ [] ∧ (toString (number : Int)).toList.length ≤ 8 ∧
      Tag.ofPlain (toString (number : Int)) = Tag.int := by decide +kernel
  have read : Scalar.int (toString number) = .ok (.int number) := by
    obtain rfl | rfl | rfl | rfl : number = 0 ∨ number = 1 ∨ number = 2 ∨ number = 3 := by omega
    all_goals rfl
  obtain ⟨wordly, filled, short, form⟩ := facts number (by simp; omega)
  have scalar : Writer.scalar? (.int number) = some (.ofList (toString number).toList, Tag.int) := by
    rw [whole]
    rfl
  exact word_settles named (List.all_eq_true.mp wordly) filled short scalar (by rw [whole, form]) ⟨_, int_reader, by rw [whole, read]⟩

/-! ## All lines -/

variable {settings : Settings}

theorem mem_fields {name : String} {value : Value} (member : (name, value) ∈ settings.fields) :
    name = "color_mode" ∧ value = settings.colorMode ∨ name = "level" ∧ value = settings.level ∨
      name = "log_level" ∧ value = settings.logLevel := by
  simpa [Settings.fields] using member

theorem line_key {line : Line} (made : line? (name, value) = some line) : line.key = name.toList := by
  unfold line? at made
  split at made
  · next same =>
    cases same
    cases made
    rfl
  · next same =>
    cases same
    cases made
    rfl
  · cases made

theorem meaning_field (member : (name, value) ∈ settings.fields) {line : Line} (made : line? (name, value) = some line) :
    meaning settings line = value := by
  rw [meaning, line_key made, String.ofList_toList]
  rcases mem_fields member with ⟨rfl, rfl⟩ | ⟨rfl, rfl⟩ | ⟨rfl, rfl⟩ <;> rfl

theorem field_line (fine : settings.problem? = none) (member : (name, value) ∈ settings.fields) :
    value = .null ∧ line? (name, value) = none ∨ ∃ line, line? (name, value) = some line ∧ Settles line value := by
  rcases mem_fields member with ⟨rfl, rfl⟩ | ⟨rfl, rfl⟩ | ⟨rfl, rfl⟩
  · obtain ⟨mode, same, listed⟩ : ∃ mode, settings.colorMode = .text mode ∧ mode ∈ Settings.colorModes := by
      rcases mode_cases fine with same | same | same
      · exact ⟨_, same, by decide⟩
      · exact ⟨_, same, by decide⟩
      · exact ⟨_, same, by decide⟩
    rw [same]
    exact Or.inr ⟨_, rfl, mode_settles (fields_named (by simp)) listed⟩
  · rcases level_cases fine with same | ⟨number, same, least, greatest⟩
    · rw [same]
      exact Or.inl ⟨rfl, rfl⟩
    · rw [same]
      exact Or.inr ⟨_, rfl, tier_settles (fields_named (by simp)) least greatest⟩
  · obtain ⟨text, same, listed⟩ := LogLevelText.isLogLevel_text (problem?_none_iff.mp fine).2.2
    rw [same]
    exact Or.inr ⟨_, rfl, level_settles (fields_named (by simp)) listed⟩

theorem lines_settle (fine : settings.problem? = none) : ∀ line ∈ settingsLines settings, Settles line (meaning settings line) := by
  intro line member
  obtain ⟨⟨name, value⟩, listed, made⟩ := List.mem_filterMap.mp member
  rw [meaning_field listed made]
  rcases field_line fine listed with ⟨_, none⟩ | ⟨own, same, settles⟩
  · rw [none] at made
    cases made
  · rw [same] at made
    cases made
    exact settles

theorem keys_sublist (fields : List (String × Value)) :
    ((fields.filterMap line?).map Line.key).Sublist (fields.map (·.1.toList)) := by
  induction fields with
  | nil => exact List.Sublist.slnil
  | cons field rest ih =>
    rw [List.filterMap_cons]
    cases made : line? field with
    | none => exact ih.cons _
    | some line =>
      have key := @line_key field.1 field.2 line made
      rw [List.map_cons, List.map_cons, ← key]
      exact ih.cons_cons _

theorem lines_keys (settings : Settings) : ((settingsLines settings).map Line.key).Nodup := by
  have names : (settings.fields.map (·.1.toList)).Nodup := by
    change ["color_mode".toList, "level".toList, "log_level".toList].Nodup
    decide
  exact names.sublist (keys_sublist settings.fields)

def entryOf (settings : Settings) (line : Line) : Value × Value := (.text (.ofList line.key), meaning settings line)

def isSet (entry : Value × Value) : Bool :=
  match entry.2 with
  | .null => false
  | _ => true

theorem entries_kept {fields : List (String × Value)} (fine : settings.problem? = none) (inside : ∀ field ∈ fields, field ∈ settings.fields) :
    (fields.map fun (name, value) => (Value.text name, value)).filter isSet = (fields.filterMap line?).map (entryOf settings) := by
  induction fields with
  | nil => rfl
  | cons field rest ih =>
    obtain ⟨name, value⟩ := field
    have later := ih fun other member => inside other (by simp [member])
    have own := inside (name, value) (by simp)
    rcases field_line fine own with ⟨rfl, none⟩ | ⟨line, made, _⟩
    · rw [List.map_cons, List.filter_cons, if_neg (by simp [isSet]), List.filterMap_cons, none]
      exact later
    · have set : isSet (Value.text name, value) = true := by
        cases value with
        | null => cases made
        | _ => rfl
      have entry : entryOf settings line = (.text name, value) := by
        rw [entryOf, line_key made, String.ofList_toList, meaning_field own made]
      rw [List.map_cons, List.filter_cons, if_pos set, List.filterMap_cons, made, List.map_cons, entry, later]

theorem entries_sorted (settings : Settings) :
    Writer.sorted ((settings.fields.map fun (name, value) => (Value.text name, value)).filter isSet) =
      (settings.fields.map fun (name, value) => (Value.text name, value)).filter isSet := by
  have names : ["color_mode", "level", "log_level"].Pairwise fun a b => (!(b < a : Bool)) = true := by decide
  have order : (settings.fields.map fun (name, value) => (Value.text name, value)).Pairwise fun a b =>
      (!((Writer.textOf? b.1).getD "" < (Writer.textOf? a.1).getD "" : Bool)) = true := by
    have own : (settings.fields.map (·.1)).Pairwise fun a b => (!(b < a : Bool)) = true := names
    exact List.pairwise_map.mpr (List.pairwise_map.mp own)
  unfold Writer.sorted
  split
  · exact List.mergeSort_of_pairwise (order.sublist List.filter_sublist)
  · rfl

theorem lines_filled (fine : settings.problem? = none) : settingsLines settings ≠ [] := by
  rcases mode_cases fine with same | same | same <;> simp [settingsLines, Settings.fields, line?, same]

theorem document_lines (fine : settings.problem? = none) : settings.document = .ofList (linesText (settingsLines settings)) := by
  have kept := entries_kept fine fun _ member => member
  have order := entries_sorted settings
  rw [kept] at order
  change Writer.document (.dict ((settings.fields.map fun (name, value) => (Value.text name, value)).filter isSet)) = _
  rw [kept]
  exact document_written (fun line member => (lines_settle fine line member).1) (lines_filled fine) order

/-! ## Reading them back -/

theorem wordly_basic {c : Char} (wordly : isWordly c = true) : DocumentSource.Basic c := by
  refine DocumentSource.basic_of (wordly_forall c wordly ?_)
  decide +kernel

theorem mark_basic : ∀ c ∈ [':', ' ', '"', '\n'], DocumentSource.Basic c := by
  have marks : ∀ c ∈ [':', ' ', '"', '\n'], c.toNat < 0x80 ∧ Source.isAllowed c = true ∧ c ≠ '\r' :=
    List.all_iff_forall_prop.mp (by decide +kernel)
  exact fun c member => DocumentSource.basic_of (marks c member)

theorem spelled_basic {c : Char} (letter : isWordly c = true ∨ c = dotless) : ∀ d ∈ spelled c, DocumentSource.Basic d := by
  intro d member
  by_cases other : c = dotless
  · have escape : ∀ d ∈ "\\u0131".toList, d.toNat < 0x80 ∧ Source.isAllowed d = true ∧ d ≠ '\r' :=
      List.all_iff_forall_prop.mp (by decide +kernel)
    rw [spelled, if_pos other] at member
    exact DocumentSource.basic_of (escape d member)
  · have wordly := letter.resolve_right other
    rw [spelled_wordly wordly, List.mem_singleton] at member
    rw [member]
    exact wordly_basic wordly

theorem written_basic {line : Line} (fits : line.Fits) : ∀ c ∈ line.written, DocumentSource.Basic c := by
  intro c member
  unfold Line.written at member
  split at member
  next plain => exact wordly_basic ((fits.plain plain).1 c member)
  next quoted =>
    simp only [List.mem_cons, List.mem_append, List.mem_flatMap, List.not_mem_nil, or_false] at member
    rcases member with rfl | ⟨d, inside, spelt⟩ | rfl
    · exact mark_basic _ (by simp)
    · exact spelled_basic (fits.quoted (by simpa using quoted) d inside) c spelt
    · exact mark_basic _ (by simp)

theorem lines_basic {lines : List Line} (fits : ∀ line ∈ lines, line.Fits) : ∀ c ∈ linesText lines, DocumentSource.Basic c := by
  intro c member
  obtain ⟨line, listed, inside⟩ := List.mem_flatMap.mp member
  have own := fits line listed
  simp only [Line.text, List.mem_cons, List.mem_append, List.not_mem_nil, or_false] at inside
  rcases inside with key | rfl | rfl | value | rfl
  · exact wordly_basic (own.key c key)
  · exact mark_basic _ (by simp)
  · exact mark_basic _ (by simp)
  · exact written_basic own c value
  · exact mark_basic _ (by simp)

theorem line_short {line : Line} (writes : Writes line value) : line.text.length ≤ 82 := by
  have room := writes.room
  have spelt := spelled_length line.value
  have written : line.written.length ≤ (line.value.flatMap spelled).length + 2 := by
    unfold Line.written
    split
    · omega
    · simp
  simp only [Line.text, List.length_append, List.length_cons, List.length_nil]
  dsimp only [Writer.width] at room
  omega

theorem lines_short {lines : List Line} (writes : ∀ line ∈ lines, Writes line (meaning settings line)) :
    (linesText lines).length ≤ 82 * lines.length := by
  induction lines with
  | nil => exact Nat.le_refl 0
  | cons line rest ih =>
    have own := line_short (writes line (by simp))
    have others := ih fun other member => writes other (by simp [member])
    rw [linesText] at others ⊢
    rw [List.flatMap_cons, List.length_append, List.length_cons]
    omega

theorem source_lines (fine : settings.problem? = none) :
    Source.ofBytes settings.document.toUTF8 = .ofText (linesText (settingsLines settings)) := by
  have writes := fun line member => (lines_settle fine line member).1
  have count : (settingsLines settings).length ≤ 3 := List.length_filterMap_le _ settings.fields
  have short := lines_short writes
  have long := lines_length (settingsLines settings)
  have filled : linesText (settingsLines settings) ≠ [] := by
    intro none
    rw [none] at long
    exact lines_filled fine (List.length_eq_zero_iff.mp (Nat.le_zero.mp long))
  rw [document_lines fine]
  refine DocumentSource.ofBytes_basic filled (lines_basic fun line member => (writes line member).fits) ?_
  dsimp only [Source.Stream.blockSize]
  omega

theorem lines_known {line : Line} (listed : line ∈ settingsLines settings) :
    Settings.namesField (.text (.ofList line.key)) = true := by
  obtain ⟨⟨name, value⟩, member, made⟩ := List.mem_filterMap.mp listed
  have known : name ∈ ["color_mode", "level", "log_level"] := by
    rcases mem_fields member with ⟨rfl, _⟩ | ⟨rfl, _⟩ | ⟨rfl, _⟩ <;> simp
  rw [line_key made, String.ofList_toList]
  exact (fields_named known).known

theorem entries_read (fine : settings.problem? = none) : ∃ document, Yaml.read settings.document.toUTF8 = .ok document ∧
    Settings.entries? document = some ((settingsLines settings).map (entryOf settings)) := by
  have settles := lines_settle fine
  obtain ⟨document, read, found⟩ := read_entries (fun line member => (settles line member).1.fits) (lines_filled fine)
    (lines_keys settings) (fun line member => (settles line member).2) (source_lines fine)
  refine ⟨document, read, ?_⟩
  rw [SettingsSources.entries?_values found, List.map_map]
  refine congrArg some (List.map_congr_left fun line member => ?_)
  simp only [Function.comp, lines_known member, if_true]
  rfl

/-- Laid over the defaults, the entries are the settings again. -/
theorem overlay_lines (fine : settings.problem? = none) (path : String) :
    Settings.overlay path ((settingsLines settings).map (entryOf settings)) .standard = ⟨settings, []⟩ := by
  have kept : _ = (settingsLines settings).map (entryOf settings) := entries_kept fine fun _ member => member
  have mode : ∃ mode, settings.colorMode = .text mode := by
    rcases mode_cases fine with same | same | same <;> exact ⟨_, same⟩
  have level : settings.level = .null ∨ ∃ number, settings.level = .int number := by
    rcases level_cases fine with same | ⟨number, same, _⟩
    · exact Or.inl same
    · exact Or.inr ⟨number, same⟩
  obtain ⟨text, logLevel, _⟩ := LogLevelText.isLogLevel_text (problem?_none_iff.mp fine).2.2
  rw [← kept]
  obtain ⟨colorMode, tier, name⟩ := settings
  obtain ⟨mode, rfl⟩ := mode
  obtain rfl := logLevel
  rcases level with rfl | ⟨number, rfl⟩
  · rfl
  · rfl

end TermStyle.Proofs.SettingsLines
