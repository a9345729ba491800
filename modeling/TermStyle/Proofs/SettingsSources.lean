import TermStyle.Log.Configure
import TermStyle.Proofs.ActionRun
import TermStyle.Proofs.DocumentKeys
import TermStyle.Proofs.DocumentSource
import TermStyle.Proofs.FlatDocument
import TermStyle.Proofs.LogLevelText
import TermStyle.Proofs.SettingsRun

/-! Where loaded settings come from. Each field is looked up by itself: in its variable, then under its own key of the
document, then among the defaults. What else a document holds has no part in it. -/

namespace TermStyle.Proofs.SettingsSources
open Text Log Settings ActionRun ExceptSteps DocumentKeys SettingsRun

/-- The three settings, each with its key, its variable and its default. -/
inductive Field
  | colorMode
  | level
  | logLevel
  deriving DecidableEq

namespace Field

def name : Field → String
  | colorMode => "color_mode"
  | level => "level"
  | logLevel => "log_level"

def source : Field → String
  | colorMode => Variable.configColor
  | level => Variable.configLevel
  | logLevel => Variable.configLogLevel

def default : Field → Value
  | colorMode => .text "auto"
  | level => .null
  | logLevel => .text "WARNING"

def of (settings : Settings) : Field → Value
  | colorMode => settings.colorMode
  | level => settings.level
  | logLevel => settings.logLevel

/-- What the text of the variable stands for, if it stands for anything. -/
def reads : Field → String → Option Value
  | colorMode, text => some (.text (CaseMap.lower (Blank.strip text)))
  | level, text => (Numeral.read text).toOption.map .int
  | logLevel, text => some (.text (CaseMap.upper (Blank.strip text)))

end Field

def under (name : String) (entries : List (Value × Value)) : Option Value := entries.findSome? (Record.field? name)

/-- The value that the sources have for a field, the strongest first. -/
def sourced (env : Environment) (entries : List (Value × Value)) (field : Field) : Option Value :=
  match env.filled? field.source with
  | some text => field.reads text
  | none => some ((under field.name entries).getD field.default)

/-- The entries of the file that is loaded. A file that is found and passed over counts as none. -/
inductive Consulted (store : Store) (env : Environment) (path : Option String) : List (Value × Value) → Prop
  | asked {name : String} {entries : List (Value × Value)} (named : path.filter (!·.isEmpty) = some name)
      (read : readEntries store name = .ok entries) : Consulted store env path entries
  | found {name : String} {entries : List (Value × Value)} (unnamed : path.filter (!·.isEmpty) = none)
      (found : find store env = .ok (some name)) (read : readEntries store name = .ok entries) : Consulted store env path entries
  | passedOver {name : String} {obstacle : Obstacle} (unnamed : path.filter (!·.isEmpty) = none)
      (found : find store env = .ok (some name)) (broken : readEntries store name = .error obstacle) :
      Consulted store env path []
  | nowhere (unnamed : path.filter (!·.isEmpty) = none) (missing : find store env = .ok none) : Consulted store env path []

variable {store : Store} {env : Environment} {path : Option String}

theorem Consulted.unique {first second : List (Value × Value)} (one : Consulted store env path first)
    (other : Consulted store env path second) : first = second := by
  cases one <;> cases other <;> simp_all

theorem field?_some {name : String} {key value found : Value} (there : Record.field? name (key, value) = some found) :
    key = .text name ∧ found = value := by
  unfold Record.field? at there
  split at there
  next text _ same =>
    cases same
    split at there
    next equal => exact ⟨congrArg Value.text equal, (Option.some.inj there).symm⟩
    · cases there
  · cases there

theorem under_none {name : String} {entries : List (Value × Value)} (absent : .text name ∉ entries.map (·.1)) :
    under name entries = none := by
  refine List.findSome?_eq_none_iff.mpr fun entry member => ?_
  cases there : Record.field? name entry with
  | none => rfl
  | some found =>
    have same := (@field?_some name entry.1 entry.2 _ there).1
    exact absurd (List.mem_map.mpr ⟨entry, member, same⟩) absent

theorem update?_some {settings changed : Settings} {name : String} {value : Value}
    (updated : settings.update? name value = some changed) (field : Field) :
    field.of changed = if field.name = name then value else field.of settings := by
  unfold Settings.update? at updated
  split at updated
  next same =>
    cases updated
    cases field <;> simp [Field.of, Field.name, same]
  · split at updated
    next same =>
      cases updated
      cases field <;> simp [Field.of, Field.name, same]
    · split at updated
      next same =>
        cases updated
        cases field <;> simp [Field.of, Field.name, same]
      · cases updated

theorem update?_none {settings : Settings} {name : String} {value : Value} (unknown : settings.update? name value = none)
    (field : Field) : field.name ≠ name := by
  rintro rfl
  cases field <;> simp [Settings.update?, Field.name] at unknown

theorem under_own (name : String) (value : Value) (rest : List (Value × Value)) :
    under name ((.text name, value) :: rest) = some value := by simp [under, Record.field?]

theorem under_other {name : String} {key : Value} (other : key ≠ .text name) (value : Value) (rest : List (Value × Value)) :
    under name ((key, value) :: rest) = under name rest := by
  unfold under
  rw [List.findSome?_cons]
  split
  next found there => exact absurd (field?_some there).1 other
  · rfl

theorem overlay_of (file : String) {entries : List (Value × Value)} (distinct : Distinct (entries.map (·.1)))
    (settings : Settings) (field : Field) :
    field.of (overlay file entries settings).value = (under field.name entries).getD (field.of settings) := by
  induction entries generalizing settings with
  | nil => rfl
  | cons entry rest ih =>
    obtain ⟨key, value⟩ := entry
    obtain ⟨apart, others⟩ := List.pairwise_cons.mp distinct
    unfold overlay
    dsimp only
    split
    next changed known =>
      rw [ih others]
      split at known
      next name =>
        rw [update?_some known]
        by_cases same : field.name = name
        · -- A later entry would win, but the key is not there twice.
          have once : under field.name rest = none := under_none fun member => apart _ member name rfl (congrArg _ same)
          rw [once, same, under_own, if_pos rfl]
          rfl
        · rw [if_neg same, under_other fun equal => same (Value.text.inj equal).symm]
      · cases known
    next unknown =>
      rw [ih others, under_other]
      rintro rfl
      exact update?_none unknown field rfl

theorem overlay_standard (file : String) {entries : List (Value × Value)} (distinct : Distinct (entries.map (·.1)))
    (field : Field) : field.of (overlay file entries standard).value = (under field.name entries).getD field.default := by
  rw [overlay_of file distinct]
  cases field <;> rfl

theorem readEntries_distinct {name : String} {entries : List (Value × Value)} (read : readEntries store name = .ok entries) :
    Distinct (entries.map (·.1)) := by
  obtain ⟨content, _, further⟩ := bind_ok_iff.mp read
  obtain ⟨document, parsed, further⟩ := bind_ok_iff.mp further
  split at further
  next known some =>
    cases further
    obtain ⟨pairs, listed, rfl⟩ := Option.map_eq_some_iff.mp some
    have keys := read_distinct (mapError_ok_iff.mp parsed) listed
    rwa [List.map_map]
  · cases further

/-- The entries of a document with known values. Of a key that names no setting, the value is not looked at. -/
theorem entries?_values {document : Yaml.Document} {values : List (Value × Value)}
    (found : document.entries?.map (·.map fun (key, id) => (key, document.value id)) = some values) :
    entries? document = some (values.map fun (key, value) => (key, if namesField key then value else .null)) := by
  obtain ⟨entries, listed, rfl⟩ := Option.map_eq_some_iff.mp found
  rw [entries?, listed, List.map_map]
  rfl

theorem readEntries_ok {name : String} {content : ByteArray} {entries : List (Value × Value)} {document : Yaml.Document}
    (parsed : Yaml.read content = .ok document) (listed : entries? document = some entries)
    (read : store.read name = .ok content) : readEntries store name = .ok entries := by
  have taken : (store.read name).mapError (fun error => Obstacle.ofFault (.store error)) = .ok content := mapError_ok_iff.mpr read
  have meant : (Yaml.read content).mapError Obstacle.ofFault = .ok document := mapError_ok_iff.mpr parsed
  refine bind_ok_iff.mpr ⟨content, taken, bind_ok_iff.mpr ⟨document, meant, ?_⟩⟩
  rw [listed]
  rfl

theorem requested_read {name : String} {entries : List (Value × Value)} (read : readEntries store name = .ok entries)
    (there : store.exists? (Store.Path.ofText name).text = .ok true) :
    requested store name = ⟨.ok (overlay name entries standard).value, (overlay name entries standard).records⟩ := by
  have found : isThere store name = .ok true := mapError_ok_iff.mpr there
  unfold requested
  simp only [found, read]

/-- The file leaves each field with the value under its key, or with its default. -/
theorem ofFiles_of {files : Settings} (read : (ofFiles store env path).value = .ok files) :
    ∃ entries, Consulted store env path entries ∧
      ∀ field : Field, field.of files = (under field.name entries).getD field.default := by
  unfold ofFiles at read
  split at read
  next name named =>
    unfold requested at read
    split at read
    · cases read
    · cases read
    · split at read
      · cases read
      next entries readable =>
        cases read
        exact ⟨entries, .asked named readable, overlay_standard name (readEntries_distinct readable)⟩
  next unnamed =>
    unfold discovered at read
    split at read
    · cases read
    next missing =>
      cases read
      refine ⟨[], .nowhere unnamed missing, fun field => ?_⟩
      cases field <;> rfl
    next name there =>
      split at read
      next obstacle broken =>
        split at read
        · cases read
          refine ⟨[], .passedOver unnamed there broken, fun field => ?_⟩
          cases field <;> rfl
        · cases read
      next entries readable =>
        cases read
        exact ⟨entries, .found unnamed there readable, overlay_standard name (readEntries_distinct readable)⟩

theorem environmentLevel_ok {level found : Value} (read : environmentLevel env level = .ok found) :
    (match env.filled? Variable.configLevel with
      | some text => (Numeral.read text).toOption.map .int
      | none => some level) = some found := by
  unfold environmentLevel at read
  split at read
  next unfilled =>
    cases read
    rw [unfilled]
  next text filled =>
    rw [filled]
    dsimp only
    split at read
    next number same =>
      cases read
      rw [same]
      rfl
    · cases read

theorem overlayEnvironment_of {settings laid : Settings} (overlaid : settings.overlayEnvironment env = .ok laid) (field : Field) :
    (match env.filled? field.source with
      | some text => field.reads text
      | none => some (field.of settings)) = some (field.of laid) := by
  obtain ⟨level, read, made⟩ := bind_ok_iff.mp overlaid
  cases made
  cases field with
  | colorMode =>
    dsimp only [Field.source, Field.of, Field.reads]
    cases env.filled? Variable.configColor <;> rfl
  | level => exact environmentLevel_ok read
  | logLevel =>
    dsimp only [Field.source, Field.of, Field.reads]
    cases env.filled? Variable.configLogLevel <;> rfl

/-- The environment laid over settings, and the whole checked. -/
def laidOver (settings : Settings) (env : Environment) : Except Failure Settings := do
  let laid ← (settings.overlayEnvironment env).mapError .problem
  laid.validate

theorem laidOver_ok {settings laid : Settings} (overlaid : settings.overlayEnvironment env = .ok laid) :
    laidOver settings env = laid.validate := by
  rw [laidOver, overlaid]
  rfl

theorem load_value {files : Settings} (read : (ofFiles store env path).value = .ok files) :
    load store env path = ⟨laidOver files env, (ofFiles store env path).records⟩ := by
  rw [load, read]
  rfl

theorem restrict_returns {name : String} (named : CaseMap.upper name ∈ logLevels) (before : Session) :
    ∃ after, Returns (Setup.restrict (.text name)) before () after := by
  have known : ∀ level ∈ logLevels, (Level.names.lookup level).isSome = true := by decide
  obtain ⟨level, found⟩ := Option.isSome_iff_exists.mp (known _ named)
  have read : Level.ofValue (.text name) = .ok level := by simp only [Level.ofValue, Level.ofName, found]
  let after : Session := { before with world := { before.world with log := before.world.log.setLevel level } }
  have changed : Returns (Setup.change (·.setLevel level)) before () after := outcome_inWorld _ _
  exact ⟨after, returns_bind.mpr ⟨level, before, returns_lift.mpr ⟨read, rfl⟩, changed⟩⟩

/-- Fit for use: a mode, no level or a tier, and a name that logging takes, in whatever letters. -/
structure InOrder (settings : Settings) : Prop where
  colorMode : ∃ mode ∈ ["auto", "always", "never"], settings.colorMode = .text mode
  level : settings.level = .null ∨ ∃ number : Int, settings.level = .int number ∧ 0 ≤ number ∧ number ≤ 3
  logLevel : ∃ name, settings.logLevel = .text name ∧
    CaseMap.upper name ∈ ["DEBUG", "INFO", "WARNING", "ERROR", "CRITICAL"] ∧
    ∀ before, ∃ after, Returns (Setup.restrict (.text name)) before () after

theorem inOrder {settings : Settings} (fine : settings.problem? = none) : InOrder settings where
  colorMode := by
    rcases mode_cases fine with same | same | same
    · exact ⟨_, by simp [automatic], same⟩
    · exact ⟨_, by simp [always], same⟩
    · exact ⟨_, by simp [never], same⟩
  level := level_cases fine
  logLevel := by
    obtain ⟨name, same, named⟩ := LogLevelText.isLogLevel_text (problem?_none_iff.mp fine).2.2
    exact ⟨name, same, named, restrict_returns named⟩

theorem load_sourced {settings : Settings} (loaded : (load store env path).value = .ok settings) :
    ∃ entries, Consulted store env path entries ∧ ∀ field : Field, sourced env entries field = some (field.of settings) := by
  obtain ⟨files, read, laying⟩ := bind_ok_iff.mp loaded
  obtain ⟨laid, overlaid, validated⟩ := bind_ok_iff.mp laying
  obtain ⟨rfl, _⟩ := validate_ok validated
  obtain ⟨entries, consulted, own⟩ := ofFiles_of read
  refine ⟨entries, consulted, fun field => ?_⟩
  rw [sourced, ← own]
  exact overlayEnvironment_of (mapError_ok_iff.mp overlaid) field

theorem Consulted.distinct {entries : List (Value × Value)} (consulted : Consulted store env path entries) :
    Distinct (entries.map (·.1)) := by
  cases consulted with
  | asked _ read => exact readEntries_distinct read
  | found _ _ read => exact readEntries_distinct read
  | passedOver => exact List.Pairwise.nil
  | nowhere => exact List.Pairwise.nil

theorem fields_ext {first second : Settings} (same : ∀ field : Field, field.of first = field.of second) : first = second := by
  cases first
  cases second
  simp only [Settings.mk.injEq]
  exact ⟨same .colorMode, same .level, same .logLevel⟩

/-- Settings that are loaded are in order, and each field has the value that its sources have for it. A file that has the
same values under the three keys leads to the same settings, whatever else is in it. -/
theorem loaded_settings {settings : Settings} (loaded : (load store env path).value = .ok settings) :
    InOrder settings ∧ ∃ entries, Consulted store env path entries ∧ Distinct (entries.map (·.1)) ∧
      (∀ field : Field, sourced env entries field = some (field.of settings)) ∧
      ∀ (other : Store) (otherPath : Option String) (others : List (Value × Value)) (found : Settings),
        Consulted other env otherPath others → (∀ field : Field, under field.name others = under field.name entries) →
        (load other env otherPath).value = .ok found → found = settings := by
  obtain ⟨entries, consulted, own⟩ := load_sourced loaded
  refine ⟨inOrder (load_valid loaded), entries, consulted, consulted.distinct, own, ?_⟩
  intro other otherPath others found elsewhere alike otherLoaded
  obtain ⟨listed, otherConsulted, otherOwn⟩ := load_sourced otherLoaded
  obtain rfl := otherConsulted.unique elsewhere
  refine fields_ext fun field => ?_
  have same : sourced env listed field = sourced env entries field := by simp only [sourced, alike field]
  rw [otherOwn field, own field] at same
  exact Option.some.inj same

/-- A file with a key that no setting has, and an environment with a wish that is not written the usual way. -/
def shadedText : List Char := "shade: dark\nlevel: 3\nlog_level: info\n".toList

def shaded : Store := ⟨[(⟨false, ["huecode.yml"]⟩, .file (String.ofList shadedText).toUTF8)], none⟩

def quiet : Environment := ⟨[("HUECODE_COLOR", " Never ")]⟩

def shadedLines : List FlatGraph.Line :=
  [⟨"shade".toList, "dark".toList, true⟩, ⟨"level".toList, ['3'], true⟩, ⟨"log_level".toList, "info".toList, true⟩]

def shadedMeaning (line : FlatGraph.Line) : Value :=
  if line.value = ['3'] then .int 3 else .text (.ofList line.value)

private theorem shaded_read : ∃ document, Yaml.read (String.ofList shadedText).toUTF8 = .ok document ∧
    entries? document = some [(.text "shade", .null), (.text "level", .int 3), (.text "log_level", .text "info")] := by
  have source : Yaml.Source.ofBytes (String.ofList shadedText).toUTF8 = .ofText (FlatGraph.linesText shadedLines) := by
    have basic : ∀ c ∈ shadedText, c.toNat < 0x80 ∧ Yaml.Source.isAllowed c = true ∧ c ≠ '\r' :=
      List.all_iff_forall_prop.mp (by decide +kernel)
    exact DocumentSource.ofBytes_basic (by decide) (fun c member => DocumentSource.basic_of (basic c member)) (by decide)
  have fits : ∀ line ∈ shadedLines, line.Fits := by
    have words : ∀ line ∈ shadedLines, line.key.all ScanRun.isWordly = true ∧ line.key ≠ [] ∧
        line.key.length ≤ Yaml.Lexer.keyLimit ∧ line.value.all ScanRun.isWordly = true ∧ line.value ≠ [] ∧
        line.isPlain = true := by decide
    intro line member
    obtain ⟨key, named, short, value, filled, plain⟩ := words line member
    exact ⟨List.all_eq_true.mp key, named, short, fun _ => ⟨List.all_eq_true.mp value, filled⟩, fun quoted => absurd (plain.symm.trans quoted) (by decide)⟩
  have means : ∀ line ∈ shadedLines, FlatDocument.Means line (shadedMeaning line) := by
    intro line member
    simp only [shadedLines, List.mem_cons, List.not_mem_nil, or_false] at member
    rcases member with rfl | rfl | rfl
    · exact ⟨by decide +kernel, ⟨_, rfl, rfl⟩⟩
    · exact ⟨by decide +kernel, ⟨_, rfl, rfl⟩⟩
    · exact ⟨by decide +kernel, ⟨_, rfl, rfl⟩⟩
  obtain ⟨document, read, found⟩ := FlatDocument.read_entries fits (by decide) (by decide) means source
  refine ⟨document, read, ?_⟩
  rw [entries?_values found]
  rfl

theorem loaded_settings_shaded :
    (load shaded quiet (some "huecode.yml")).value = .ok ⟨.text "never", .int 3, .text "info"⟩ ∧
    InOrder ⟨.text "never", .int 3, .text "info"⟩ ∧
    ∃ entries, Consulted shaded quiet (some "huecode.yml") entries ∧ (.text "shade", .null) ∈ entries ∧
      sourced quiet entries .colorMode = some (.text "never") ∧ sourced quiet entries .level = some (.int 3) ∧
      sourced quiet entries .logLevel = some (.text "info") := by
  obtain ⟨document, read, listed⟩ := shaded_read
  have entered := readEntries_ok read listed (rfl : shaded.read "huecode.yml" = .ok _)
  have requests : (ofFiles shaded quiet (some "huecode.yml")).value = .ok ⟨.text "auto", .int 3, .text "info"⟩ :=
    congrArg Noted.value (requested_read entered rfl)
  have overlaid : Settings.overlayEnvironment ⟨.text "auto", .int 3, .text "info"⟩ quiet =
    .ok ⟨.text "never", .int 3, .text "info"⟩ := rfl
  have fine : Settings.problem? ⟨.text "never", .int 3, .text "info"⟩ = none := problem?_none_iff.mpr (by decide +kernel)
  have loaded : (load shaded quiet (some "huecode.yml")).value = .ok ⟨.text "never", .int 3, .text "info"⟩ := by
    rw [load_value requests, laidOver_ok overlaid, Settings.validate, fine]
  obtain ⟨inOrder, entries, consulted, _, own, _⟩ := loaded_settings loaded
  have asked : Consulted shaded quiet (some "huecode.yml") _ := .asked rfl entered
  obtain rfl := consulted.unique asked
  exact ⟨loaded, inOrder, _, consulted, by simp, own .colorMode, own .level, own .logLevel⟩

end TermStyle.Proofs.SettingsSources
