import TermStyle.Proofs.CommandOutcome
import TermStyle.Proofs.LoadOutcome
import TermStyle.Proofs.NormalPath
import TermStyle.Proofs.ValueSources

/-! What messages are made of. The message of a problem is a plain text with at most one quotation in it: of a word of the
command line, of a variable of the environment, or of a value in the settings file. -/

namespace TermStyle.Proofs.MessageQuotes
open Text CommandLine Settings ExceptSteps SettingsSources LoadOutcome CommandOutcome UnescapedText PlainHelp ValueSources

/-- What a message may quote. A path for a new file is quoted in its normal form, and variables with letters that were changed. -/
inductive Quotation (words : List String) (world : World) (path : Option String) : String → Prop
  | word {text} (drawn : Drawn words text) : Quotation words world path text
  | normal {text} (drawn : Drawn words text) : Quotation words world path (normal text)
  | binding {name text quoted} (given : world.env.get? name = some text)
      (form : quoted ∈ [text, CaseMap.lower (Blank.strip text), CaseMap.upper (Blank.strip text)]) :
      Quotation words world path quoted
  | entry {entries entry} (consulted : Consulted world.store world.env path entries) (member : entry ∈ entries) :
      Quotation words world path (Value.display entry.2)

/-- Plain but for one quotation at most. -/
def Quotes (source : String → Prop) (text : String) : Prop :=
  ∃ front quoted back, text = front ++ quoted ++ back ∧ Unescaped front ∧ Unescaped back ∧ (Unescaped quoted ∨ source quoted)

section Texts

variable {source : String → Prop} {problem : Problem}

theorem quotes_plain {text : String} (plain : Unescaped text) : Quotes source text :=
  ⟨"", text, "", by simp, by decide, by decide, Or.inl plain⟩

theorem Quotes.behind {text : String} (quotes : Quotes source text) {start : String} (plain : Unescaped start) :
    Quotes source (start ++ text) := by
  obtain ⟨front, quoted, back, rfl, first, last, shown⟩ := quotes
  exact ⟨start ++ front, quoted, back, by simp [String.append_assoc], unescaped_append.mpr ⟨plain, first⟩, last, shown⟩

theorem intercalate_last {separator : String} (between : Unescaped separator) {parts : List String}
    (plain : ∀ part ∈ parts, Unescaped part) (text : String) :
    ∃ lead, separator.intercalate (parts ++ [text]) = lead ++ text ∧ Unescaped lead := by
  induction parts with
  | nil => exact ⟨"", by simp, by decide⟩
  | cons part rest ih =>
    obtain ⟨lead, same, short⟩ := ih fun later member => plain later (by simp [member])
    refine ⟨part ++ separator ++ lead, ?_, by simp [plain part (by simp), between, short]⟩
    rw [List.cons_append, String.intercalate_cons_of_ne_nil (by simp), same]
    simp only [String.append_assoc]

/-- A detail in which nothing is quoted. -/
def DetailPlain (detail : String × Value) : Prop := Unescaped detail.1 ∧ Unescaped detail.2.display

theorem DetailPlain.text {detail : String × Value} (plain : DetailPlain detail) : Unescaped (Problem.detailText detail) := by
  simp [Problem.detailText, plain.1, plain.2, show Unescaped "=" by decide]

theorem problem_quotes (message : Unescaped problem.message) (front : List (String × Value)) (name : String) (value : Value)
    (same : problem.details = front ++ [(name, value)]) (plain : ∀ detail ∈ front, DetailPlain detail) (named : Unescaped name)
    (shown : Unescaped value.display ∨ source value.display) : Quotes source problem.text := by
  have parts : ∀ part ∈ front.map Problem.detailText, Unescaped part := by
    intro part member
    obtain ⟨detail, inside, rfl⟩ := List.mem_map.mp member
    exact (plain detail inside).text
  obtain ⟨lead, joined, short⟩ := intercalate_last (by decide : Unescaped ", ") parts (Problem.detailText (name, value))
  refine ⟨problem.message ++ " (" ++ lead ++ name ++ "=", value.display, ")", ?_, ?_, by decide, shown⟩
  · have some : problem.details.isEmpty = false := by simp [same]
    rw [Problem.text, some, if_neg (by simp), same, List.map_append, List.map_singleton, joined]
    simp only [Problem.detailText, String.append_assoc]
  · simp [message, short, named, show Unescaped " (" by decide, show Unescaped "=" by decide]

theorem problem_plain (message : Unescaped problem.message) (plain : ∀ detail ∈ problem.details, DetailPlain detail) :
    Unescaped problem.text := by
  unfold Problem.text
  split
  · exact message
  · have joined : Unescaped (", ".intercalate (problem.details.map Problem.detailText)) := by
      refine unescaped_intercalate (by decide) fun part member => ?_
      obtain ⟨detail, inside, rfl⟩ := List.mem_map.mp member
      exact (plain detail inside).text
    simp [message, joined, show Unescaped " (" by decide, show Unescaped ")" by decide]

theorem filled_plain {name text : String} (named : Unescaped name) (plain : Unescaped text) :
    ∀ detail ∈ Problem.filled name (some text), DetailPlain detail := by
  intro detail member
  unfold Problem.filled at member
  split at member
  next found same =>
    obtain rfl := Option.some.inj same
    split at member
    · cases member
    · rw [List.mem_singleton.mp member]
      exact ⟨named, plain⟩
  · cases member

theorem path_quotes {message path : String} {cause : Option Fault} (plain : Unescaped message)
    (shown : Unescaped path ∨ source path) :
    Quotes source (Problem.configuration message none none (some path) cause).text := by
  cases filled : path.isEmpty with
  | true =>
    refine quotes_plain (problem_plain plain fun detail member => ?_)
    simp [Problem.details, Problem.filled, Problem.present, filled] at member
  | false =>
    refine problem_quotes plain [] "config_path" (.text path) ?_ (by simp) (by decide) shown
    simp [Problem.details, Problem.filled, Problem.present, filled]

theorem value_quotes {message key : String} {value : Value} {cause : Option Fault} (plain : Unescaped message)
    (named : Unescaped key) (shown : Unescaped value.display ∨ source value.display) :
    Quotes source (Problem.configuration message (some key) (some value) none cause).text := by
  have keyed := filled_plain (by decide : Unescaped "config_key") named
  cases null : value with
  | null =>
    refine quotes_plain (problem_plain plain fun detail member => keyed detail ?_)
    simpa [Problem.details, Problem.present, Problem.filled] using member
  | _ =>
    refine problem_quotes plain _ "config_value" _ ?_ keyed (by decide) (null ▸ shown)
    simp [Problem.details, Problem.present, Problem.filled]

theorem argument_quotes {message name value : String} {cause : Option Fault} (plain : Unescaped message) (named : Unescaped name)
    (shown : Unescaped value ∨ source value) :
    Quotes source (Problem.argument message (some name) (some value) cause).text := by
  have first := filled_plain (by decide : Unescaped "argument") named
  cases filled : value.isEmpty with
  | true =>
    refine quotes_plain (problem_plain plain fun detail member => first detail ?_)
    simpa [Problem.details, Problem.filled, filled] using member
  | false =>
    refine problem_quotes plain _ "value" (.text value) ?_ first (by decide) shown
    simp [Problem.details, Problem.filled, filled]

end Texts

section Settling

variable {words : List String} {world : World} {path : Option String}

theorem filled?_given {env : Environment} {name text : String} (filled : env.filled? name = some text) :
    env.get? name = some text := (Option.filter_eq_some_iff.mp filled).1

theorem laid_sourced {store : Store} {env : Environment} {laid : Settings} (made : Laid store env path laid) :
    ∃ entries, Consulted store env path entries ∧ ∀ field : Field, sourced env entries field = some (field.of laid) := by
  obtain ⟨files, filed, overlaid⟩ := made
  obtain ⟨entries, consulted, own⟩ := ofFiles_of filed
  refine ⟨entries, consulted, fun field => ?_⟩
  rw [sourced, ← own]
  exact overlayEnvironment_of overlaid field

/-- A setting comes from a variable, from the file or from the defaults. -/
theorem sourced_quotation {entries : List (Value × Value)} (consulted : Consulted world.store world.env path entries) {field : Field}
    {value : Value} (found : sourced world.env entries field = some value) :
    Unescaped value.display ∨ Quotation words world path value.display := by
  unfold sourced at found
  cases filled : world.env.filled? field.source with
  | some text =>
    rw [filled] at found
    have given := filled?_given filled
    cases field with
    | colorMode =>
      cases found
      exact Or.inr (.binding given (by simp [Value.display]))
    | logLevel =>
      cases found
      exact Or.inr (.binding given (by simp [Value.display]))
    | level =>
      obtain ⟨number, _, rfl⟩ := Option.map_eq_some_iff.mp found
      exact Or.inl (int_unescaped number)
  | none =>
    rw [filled] at found
    obtain rfl := Option.some.inj found
    cases there : under field.name entries with
    | none => cases field <;> exact Or.inl (by decide)
    | some value =>
      obtain ⟨⟨key, kept⟩, member, same⟩ := List.exists_of_findSome?_eq_some there
      obtain ⟨_, rfl⟩ := field?_some same
      exact Or.inr (.entry consulted member)

theorem problem?_shows {settings : Settings} {problem : Problem} (found : settings.problem? = some problem) :
    ∃ (field : Field) (message : String), Unescaped message ∧
      problem = .configuration message (some field.name) (some (field.of settings)) none none := by
  unfold Settings.problem? at found
  split at found
  · cases found
    exact ⟨.colorMode, _, by decide +kernel, rfl⟩
  · split at found
    · cases found
      exact ⟨.level, _, by decide +kernel, rfl⟩
    · split at found
      · cases found
        exact ⟨.logLevel, _, by decide +kernel, rfl⟩
      · cases found

theorem field_plain (field : Field) : Unescaped field.name := by cases field <;> decide

theorem config_drawn {columns : Int} {flags : Parsed} (accepted : (Program.preliminary columns).parse words = .ok flags)
    {name : String} (asked : (Globals.ofParsed flags).config.filter (!·.isEmpty) = some name) :
    Unescaped name ∨ Quotation words world path name := by
  have said : flags.text? "config" = some name := (Option.filter_eq_some_iff.mp asked).1
  have stands : flags.get "config" = .text name := by
    unfold Parsed.text? at said
    split at said
    next text same =>
      cases said
      exact same
    · cases said
  have traced := parse_traced (preliminary_clear columns) accepted "config"
  rw [stands] at traced
  rcases traced with plain | ⟨text, same, drawn⟩
  · exact Or.inl plain
  · cases same
    exact Or.inr (.word drawn)

/-- A problem of loading settings quotes the path that was asked for, a variable or a value of the file. -/
theorem unloaded_quotes {columns : Int} {flags : Parsed} (accepted : (Program.preliminary columns).parse words = .ok flags)
    {problem : Problem} (unloaded : Unloaded world.store world.env (Globals.ofParsed flags).config (.problem problem)) :
    Quotes (Quotation words world (Globals.ofParsed flags).config) problem.text := by
  generalize same : Failure.problem problem = failure at unloaded
  cases unloaded with
  | unfiled unfiled =>
    cases unfiled with
    | unsought | unfound | stray => cases same
    | missing asked absent =>
      cases same
      exact path_quotes (by decide) (config_drawn accepted asked)
    | @obstructed name obstacle asked there unread =>
      cases obstacle with
      | stray fault => cases same
      | notMapping =>
        cases same
        exact path_quotes (by decide +kernel) (config_drawn accepted asked)
      | unreadable fault =>
        cases same
        exact path_quotes (by decide) (config_drawn accepted asked)
  | numeral filed said unread =>
    cases same
    exact value_quotes (by decide +kernel) (by decide) (Or.inr (.binding (filled?_given said) (by simp [Value.display])))
  | wrong made found short =>
    cases same
    obtain ⟨field, message, plain, rfl⟩ := problem?_shows found
    obtain ⟨entries, consulted, sources⟩ := laid_sourced made
    exact value_quotes plain (field_plain field) (sourced_quotation consulted (sources field))
  | overlong => cases same

end Settling

section Performing

variable {words : List String} {world : World} {path : Option String}

theorem normal_unescaped {name : String} (plain : Unescaped name) : Unescaped (normal name) := by
  by_cases bare : (Store.Path.ofText name).root = "" ∧ (Store.Path.ofText name).parts = []
  · rw [normal, Store.Path.text, if_pos bare]
    decide
  · exact fun member => plain ((NormalPath.text_sublist bare).mem member)

theorem text?_sourced {full : Parsed} {field : String} (traced : Traced words (full.get field)) :
    Unescaped (normal ((full.text? field).getD "")) ∨ Quotation words world path (normal ((full.text? field).getD "")) := by
  unfold Parsed.text?
  split
  next text same =>
    rw [same] at traced
    rcases traced with plain | ⟨drawn, kept, traced⟩
    · exact Or.inl (normal_unescaped plain)
    · cases kept
      exact Or.inr (.normal traced)
  · exact Or.inl (by decide +kernel)

theorem initSettings_asked {full : Parsed} {place : String} {mode level : Value} {force : Bool}
    (asked : Command.ofParsed? full = some (.initSettings place mode level force)) :
    place = (full.text? "config_path").getD "" ∧ mode = full.get "color_mode" ∧ level = full.get "init_level" := by
  unfold Command.ofParsed? at asked
  dsimp only at asked
  split at asked <;> cases asked
  exact ⟨rfl, rfl, rfl⟩

theorem traced_sourced {value : Value} (traced : Traced words value) :
    Unescaped value.display ∨ Quotation words world path value.display := by
  rcases traced with plain | ⟨text, rfl, drawn⟩
  · exact Or.inl plain
  · exact Or.inr (.word drawn)

/-- Of all commands only the one that writes new settings has problems. -/
theorem breaks_writing {tier : Tier} {globals : Globals} {command : Command} {problem : Problem}
    (breaks : Breaks tier globals world command (.problem problem)) :
    ∃ place mode level force, command = .initSettings place mode level force := by
  generalize same : Failure.problem problem = failure at breaks
  cases breaks with
  | taken | invalid => exact ⟨_, _, _, _, rfl⟩
  | unapplied | interrupted | unexpanded | undetected | unfound | unsought | unwritten => cases same

theorem breaks_quotes {columns : Int} {full : Parsed} (read : (Program.tree .none columns).parse words = .ok full)
    {tier : Tier} {globals : Globals} {command : Command} (asked : Command.ofParsed? full = some command) {problem : Problem}
    {later : World} (breaks : Breaks tier globals later command (.problem problem)) :
    Quotes (Quotation words world path) problem.text := by
  have traced := parse_traced (tree_clear columns) read
  generalize same : Failure.problem problem = failure at breaks
  cases breaks with
  | unapplied | interrupted | unexpanded | undetected | unfound | unsought | unwritten => cases same
  | @taken place mode level there =>
    cases same
    obtain ⟨rfl, _, _⟩ := initSettings_asked asked
    exact argument_quotes (by decide +kernel) (by decide) (text?_sourced (traced "config_path"))
  | @invalid place mode level force failure free wrong =>
    cases same
    obtain ⟨_, rfl, rfl⟩ := initSettings_asked asked
    obtain ⟨problem, found, _, same⟩ | ⟨_, _, same⟩ := validate_fails.mp wrong
    · cases same
      obtain ⟨field, message, plain, rfl⟩ := problem?_shows found
      refine value_quotes plain (field_plain field) ?_
      cases field with
      | colorMode => exact traced_sourced (traced "color_mode")
      | level => exact traced_sourced (traced "init_level")
      | logLevel => exact Or.inl (show Unescaped "WARNING" by decide)
    · cases same

end Performing

end TermStyle.Proofs.MessageQuotes
