import TermStyle.Proofs.CombinedModes
import TermStyle.Proofs.CommandOutcome
import TermStyle.Proofs.RunCourse
import TermStyle.Proofs.SettlingOutcome
import TermStyle.Proofs.SpelledFlags

/-! The default command from end to end. A text behind the global flags is rendered with the attributes that follow it,
whatever the text holds, and naming the command makes no difference. -/

namespace TermStyle.Proofs.DefaultMode
open CommandLine Reading Log ActionRun ActionFailure Logging StylerRun LeadingFlags NamedCommand RunCourse SettlingOutcome CommandOutcome
open SpelledFlags TwoReadings

def Undashed (words : List String) : Prop := ∀ word ∈ words, word.startsWith "-" = false

def arguments (texts : List String) : List Word := texts.map (⟨·, .argument⟩)

section Arguments

variable {text : String} {texts attributes : List String} {flags : List Flag} {state : State} {operand : Operand} {tier : Tier}

theorem Undashed.whole (undashed : Undashed texts) : Word.separatorText ∉ texts := by
  intro member
  exact (plays_undashed (undashed _ member) []).1 rfl

theorem ofTexts_undashed (undashed : Undashed texts) (flags : List Flag) : Word.ofTexts flags texts = .ok (arguments texts) := by
  induction texts with
  | nil => rfl
  | cons text rest ih =>
    obtain ⟨whole, role⟩ := plays_undashed (undashed text (by simp)) flags
    rw [Word.ofTexts, if_neg whole, role, ih fun later member => undashed later (by simp [member])]
    rfl

/-- Arguments and separators, which are gathered until they are offered to the operands. -/
def Bare (word : Word) : Prop := word.role = .argument ∨ word.role = .separator

theorem arguments_bare (texts : List String) : ∀ word ∈ arguments texts, Bare word := by
  simp [arguments, Bare]

theorem arguments_texts (texts : List String) : (arguments texts).map (·.text) = texts := by simp [arguments, Function.comp_def]

theorem walk_bare {words : List Word} (bare : ∀ word ∈ words, Bare word) (values : List (String × Value)) (extras : List String)
    (unfilled : List Operand) (stretch : List Word) : walk flags false words ⟨values, extras, unfilled, stretch, none⟩ =
      .ok ((⟨values, extras, unfilled, stretch ++ words, none⟩ : State).offered, []) := by
  induction words generalizing stretch with
  | nil => simp [walk]
  | cons word rest ih =>
    have others := ih (fun later member => bare later (by simp [member])) (stretch ++ [word])
    rw [List.append_assoc] at others
    rw [walk]
    rcases bare word (by simp) with role | role <;> simpa [role] using others

theorem take?_one (single : operand.arity = .one) (text : String) (rest : List String) :
    operand.take? (arguments (text :: rest)) = some (arguments [text], arguments rest) := by
  unfold Operand.take?
  rw [single]
  cases rest <;> rfl

theorem take?_many (many : operand.arity = .many) (words : List Word) : operand.take? words = some (words, []) := by
  unfold Operand.take?
  rw [many]

theorem value_one (single : operand.arity = .one) (whole : text ≠ Word.separatorText) :
    operand.value (arguments [text]) = .text text := by
  have kept : ((arguments [text]).map (·.text)).erase Word.separatorText = [text] :=
    List.erase_of_not_mem (by simpa [arguments] using Ne.symm whole)
  unfold Operand.value
  rw [single, kept]

theorem value_many (many : operand.arity = .many) (words : List Word) :
    operand.value words = .list (((words.map (·.text)).erase Word.separatorText).map .text) := by
  unfold Operand.value
  rw [many]

def rendering (text : String) (attributes : List String) : Parsed where
  path := []
  values := [("text", .text text), ("attributes", .list (attributes.map .text)), ("text", .null), ("attributes", .null)]
  extras := []

theorem both_read (undashed : Undashed (text :: attributes)) (tier : Tier) (columns : Int) :
    CommandLine.Tree.readBranch (Program.branches tier columns) "both" (text :: attributes) =
      some (.ok (rendering text attributes)) := by
  have whole : text ≠ Word.separatorText := (plays_undashed (undashed text (by simp)) []).1
  have others : Undashed attributes := fun word member => undashed word (by simp [member])
  have kept : ((arguments attributes).map (·.text)).erase Word.separatorText = attributes := by
    rw [arguments_texts, List.erase_of_not_mem others.whole]
  have offered : offer (Program.bothTree tier).grammar.operands (arguments (text :: attributes)) =
      ⟨[("text", .text text), ("attributes", .list (attributes.map .text))], [], []⟩ := by
    simp only [Program.bothTree, Program.leaf, Program.command, Program.attributesOperand, CommandLine.Tree.grammar, offer,
      take?_one, take?_many, value_one _ whole, value_many, kept]
  have walked : reading (Program.bothTree tier).grammar.flags false (text :: attributes) (start (Program.bothTree tier).grammar none) =
      .ok ((⟨(rendering text attributes).values, [], [], [], none⟩ : State), []) := by
    refine reading_ok (ofTexts_undashed undashed _) ((walk_bare (arguments_bare _) _ _ _ _).trans ?_)
    simp only [State.offered, List.nil_append, offered]
    rfl
  have own : Reading.ofTexts (Program.bothTree tier).grammar none (text :: attributes) =
      .ok ⟨(rendering text attributes).values, [], []⟩ := ofTexts_ok_iff.mpr ⟨_, _, walked, rfl, rfl⟩
  have read : (CommandLine.Tree.node (Program.bothTree tier).grammar none []).read (text :: attributes) =
      .ok (rendering text attributes) := by
    rw [CommandLine.Tree.read, own]
    rfl
  rw [Program.branches, CommandLine.Tree.readBranch, if_pos rfl]
  exact congrArg some read

theorem rendering_asked {entries : List (String × Value)} :
    Command.ofParsed? (selection entries "both" (rendering text attributes)) = some (.both text attributes) := by
  have listed : (selection entries "both" (rendering text attributes)).get "attributes" = .list (attributes.map .text) := rfl
  have texts : (selection entries "both" (rendering text attributes)).texts "attributes" = attributes := by
    rw [Parsed.texts, listed]
    simp [List.filterMap_map]
  exact congrArg (fun words => some (Command.both text words)) texts

end Arguments

section Rendering

variable {tier : Tier} {session : Session} {settings : Settings} {globals : Globals} {text front body : String}
  {attributes : List String}

theorem command_both (settings : Settings) (globals : Globals) (text : String) (attributes : List String) :
    Perform.command settings globals (.both text attributes) = CombinedModes.nested text attributes >>= Action.print := by
  simp only [Perform.command, CombinedModes.nested, bind_assoc]

theorem expansion_unclosed (unclosed : '}' ∉ text.toList) (tier : Tier) : expansion tier text = .ok text := by
  rw [expansion, Template.ofText, TemplateText.parse_unclosed unclosed]
  exact congrArg Except.ok String.ofList_toList

/-- The command prints the sequences of the attributes, the text with its placeholders expanded, and two resets. -/
theorem both_prints (inForce : session.styler.tier = some tier) (calm : session.world.interrupting = false)
    (styled : compiled tier attributes = .ok front) (expanded : expansion tier text = .ok body) :
    ∃ after, Returns (Perform.command settings globals (.both text attributes)) session () after ∧ after.styler.tier = some tier ∧
      after.world.output = session.world.output ++ (front ++ body ++ Sequence.reset.render ++ Sequence.reset.render) ++ "\n" := by
  let first := emitted (Compile.text (" ".intercalate attributes) tier.level).records session
  let last := emitted ((Template.ofText text).expand tier.level).records first
  have compiling : Returns (Styler.compile (" ".intercalate attributes)) session front first :=
    compile_returns.mpr ⟨tier, session, level_kept inForce, styled, rfl⟩
  have expanding : Returns (Styler.rawFormat text) first body last :=
    rawFormat_returns.mpr ⟨tier, first, level_kept inForce, expanded, rfl⟩
  have apart : Returns (CombinedModes.apart text attributes) session
      (front ++ body ++ Sequence.reset.render ++ Sequence.reset.render) last :=
    returns_bind.mpr ⟨front, first, compiling, returns_bind.mpr ⟨body, last, expanding, rfl⟩⟩
  have nested : Returns (CombinedModes.nested text attributes) session _ last :=
    (CombinedModes.nested_eq_apart calm text attributes).trans apart
  have silent : last.world.output = session.world.output :=
    ((emitted_logged _ session).trans (emitted_logged _ first)).output
  rw [command_both]
  refine ⟨_, returns_bind.mpr ⟨_, last, nested, outcome_inWorld _ _⟩, inForce, ?_⟩
  rw [← silent]
  rfl

end Rendering

section Settling

variable {before after : Session} {settings : Settings} {globals : Globals}

/-- Loading the settings ends well, and so does detection where it is asked. -/
structure Undisturbed (globals : Globals) (before : Session) (settings : Settings) : Prop where
  loads : Loads globals before settings
  sees : Raises settings ∨ Trusts globals settings before.styler.tier → ∃ tier, sounded before = .ok tier

/-- Where nothing disturbs them, settings fail to be settled only over a level without a number. -/
theorem undisturbed_configured {columns : Int} {words : List String} {flags : Parsed}
    (accepted : (Program.preliminary columns).parse words = .ok flags) (leveled : flags.get "level" ≠ .list [])
    (undisturbed : Undisturbed (.ofParsed flags) before settings) :
    ∃ middle tier, Returns (Perform.configure (.ofParsed flags)) before settings middle ∧ middle.styler.tier = some tier := by
  obtain ⟨loads, sees⟩ := undisturbed
  rcases returns_or_fails (Perform.configure (.ofParsed flags)) before with ⟨found, middle, configured⟩ | ⟨failure, failed⟩
  · obtain ⟨loaded, tier, inForce⟩ := configure_returns configured
    cases loads.found.symm.trans loaded
    exact ⟨middle, tier, configured, inForce⟩
  · cases (configure_fails accepted).mp failed with
    | refused listed => cases listed.symm.trans loads.told
    | unloaded _ unloaded => cases (LoadOutcome.load_fails.mpr unloaded).symm.trans loads.found
    | blind others asks unfound =>
      cases others.found.symm.trans loads.found
      obtain ⟨tier, found⟩ := sees asks
      cases found.symm.trans unfound
    | leveless _ _ separated => exact absurd separated leveled

end Settling

section Runs

/-- A command line that names no command: global flags, a text, and attributes for it. -/
def line (groups : List (List String)) (text : String) (attributes : List String) : List String :=
  groups.flatten ++ text :: attributes

variable {groups : List (List String)} {text : String} {attributes : List String} {before middle : Session} {flags : Parsed}
  {settings : Settings} {tier : Tier} {entries : List (String × Value)}

theorem line_inserted (tight : Tight groups.flatten) (undashed : Undashed (text :: attributes)) (unnamed : text ∉ Program.commandNames) :
    DefaultCommand.insert (line groups text attributes) = groups.flatten ++ "both" :: text :: attributes := by
  have bare := undashed text (by simp)
  rw [line, insert_tight tight bare, completed_unnamed (plays_undashed bare []).1 unnamed]
  rfl

/-- Naming the command is the same as leaving it out. -/
theorem run_named (tight : Tight groups.flatten) (undashed : Undashed (text :: attributes)) (unnamed : text ∉ Program.commandNames) :
    Perform.run (line groups text attributes) = Perform.run (groups.flatten ++ "both" :: text :: attributes) := by
  have same : DefaultCommand.insert (line groups text attributes) =
      DefaultCommand.insert (groups.flatten ++ "both" :: text :: attributes) := by
    rw [line_inserted tight undashed unnamed, insert_tight tight (command_undashed default_listed).1, completed_named default_listed]
  simp only [Perform.run, same]

theorem leveled_flags (leveled : ∀ entry ∈ entries, Leveled entry) :
    (⟨[], entries.reverse ++ unsaid, []⟩ : Parsed).get "level" ≠ .list [] := by
  intro same
  unfold Parsed.get at same
  cases said : (entries.reverse ++ unsaid).lookup "level" with
  | none => simp [said] at same
  | some value =>
    rw [said, Option.getD_some] at same
    rw [same] at said
    obtain ⟨front, back, split, _⟩ := List.lookup_eq_some_iff.mp said
    have member : ("level", Value.list []) ∈ entries.reverse ++ unsaid := by simp [split]
    rcases List.mem_append.mp member with earlier | default
    · exact leveled _ (List.mem_reverse.mp earlier) rfl
    · simp [unsaid] at default

theorem line_performs (undashed : Undashed (text :: attributes)) (unnamed : text ∉ Program.commandNames)
    (tight : Tight groups.flatten) (leading : Leading wholeFlags groups.flatten entries)
    (configured : Configured (line groups text attributes) before flags settings middle tier) :
    Performs (line groups text attributes) before (.ofParsed flags) settings (.both text attributes) middle tier := by
  have selects : Selects tier (Program.columns middle.world.env) (groups.flatten ++ "both" :: text :: attributes) groups.flatten entries
      "both" (text :: attributes) (rendering text attributes) :=
    ⟨rfl, leading, ⟨_, ofTexts_undashed undashed wholeFlags⟩, both_read undashed tier _, rfl⟩
  have read := selects_whole selects
  rw [← line_inserted tight undashed unnamed] at read
  exact ⟨⟨flags, configured, rfl⟩, _, read, rendering_asked⟩

/-- Without a command, a text is rendered: the run is that of the default command, it ends well if the settings can be settled
and the attributes and placeholders can be read, and it prints the rendering for the tier in force. -/
theorem default_mode (spelled : ∀ group ∈ groups, Spelled group) (undashed : Undashed (text :: attributes))
    (unnamed : text ∉ Program.commandNames) :
    Perform.run (line groups text attributes) = Perform.run (groups.flatten ++ "both" :: text :: attributes) ∧
    ∀ before, before.world.interrupting = false → ∃ flags,
      (Program.preliminary (Program.columns before.world.env)).parse
        (Perform.preliminaryWords (DefaultCommand.insert (line groups text attributes))) = .ok flags ∧
      ∀ settings, Undisturbed (.ofParsed flags) before settings → ∃ middle tier,
        Returns (Perform.configure (.ofParsed flags)) before settings middle ∧ middle.styler.tier = some tier ∧
        ∀ front body, compiled tier attributes = .ok front → expansion tier text = .ok body →
          ∃ after, Returns (Perform.run (line groups text attributes)) before ⟨0, false⟩ after ∧ after.styler.tier = some tier ∧
            after.world.output =
              before.world.output ++ (front ++ body ++ Sequence.reset.render ++ Sequence.reset.render) ++ "\n" := by
  obtain ⟨tight, entries, leading, leveled⟩ := spelled_tight spelled
  refine ⟨run_named tight undashed unnamed, fun before calm => ?_⟩
  have accepted : (Program.preliminary (Program.columns before.world.env)).parse
      (Perform.preliminaryWords (DefaultCommand.insert (line groups text attributes))) = .ok ⟨[], entries.reverse ++ unsaid, []⟩ := by
    rw [line_inserted tight undashed unnamed, preliminaryWords_tight tight (command_undashed default_listed).1]
    exact preliminary_ok_iff.mpr ⟨entries, leading.shrunk, rfl⟩
  refine ⟨_, accepted, fun settings undisturbed => ?_⟩
  obtain ⟨middle, tier, configured, inForce⟩ := undisturbed_configured accepted (leveled_flags leveled) undisturbed
  refine ⟨middle, tier, configured, inForce, fun front body styled expanded => ?_⟩
  have steady := configure_steady (.ofParsed ⟨[], entries.reverse ++ unsaid, []⟩) before
  rw [configured] at steady
  have performs := line_performs undashed unnamed tight leading ⟨accepted, configured, inForce⟩
  obtain ⟨after, printed, kept, output⟩ := both_prints inForce (steady.interrupting.trans calm) styled expanded
  refine ⟨after, ?_, kept, ?_⟩
  · rw [Returns, performs.run, printed]
  · rw [output, steady.output]

end Runs

/-- A level that is forced, and a path that is empty. -/
def forced : List (List String) := [["--level=3"], ["--config", ""]]

private theorem forced_spelled : ∀ group ∈ forced, Spelled group := by
  have level : Spelled ["--level" ++ "=" ++ "3"] := .joined (List.Mem.head _) (List.Mem.head _) rfl (rfl : Kind.read _ "3" = .ok (.int 3))
  have path : Spelled ["--config", ""] :=
    .apart (List.Mem.tail _ (List.Mem.tail _ (List.Mem.head _))) (List.Mem.head _) rfl (plays_undashed (by decide +kernel) _) rfl
  simp only [forced, List.mem_cons, List.not_mem_nil, or_false]
  rintro group (rfl | rfl)
  · exact level
  · exact path

def forcedGlobals : Globals := ⟨.int 3, false, some "", none⟩

private def areForced : Globals → Bool
  | ⟨.int 3, false, some "", none⟩ => true
  | _ => false

private theorem areForced_iff {globals : Globals} : areForced globals = true ↔ globals = forcedGlobals := by
  unfold areForced
  split
  · exact iff_of_true rfl rfl
  next other => exact iff_of_false Bool.false_ne_true other

private theorem forced_globals {flags : Parsed} (accepted : (Program.preliminary 80).parse
    (Perform.preliminaryWords (DefaultCommand.insert (line forced "2" ["red"]))) = .ok flags) : Globals.ofParsed flags = forcedGlobals := by
  have read : ((Program.preliminary 80).parse
      (Perform.preliminaryWords (DefaultCommand.insert (line forced "2" ["red"])))).toOption.any
        (fun flags => areForced (.ofParsed flags)) = true := by decide +kernel
  rw [accepted] at read
  exact areForced_iff.mp read

private theorem forced_undisturbed : Undisturbed forcedGlobals (unset (plainSession .none)) Settings.standard := by
  refine ⟨⟨by decide +kernel, rfl⟩, ?_⟩
  rintro (⟨_, raised⟩ | ⟨_, unsaid, _, _⟩)
  · exact absurd raised (by decide)
  · cases unsaid

theorem default_mode_forced : (∀ group ∈ forced, Spelled group) ∧ Undashed ["2", "red"] ∧ "2" ∉ Program.commandNames ∧
    ∃ after, Returns (Perform.run (line forced "2" ["red"])) (unset (plainSession .none)) ⟨0, false⟩ after ∧
      after.world.output = "\x1b[31m2\x1b[m\x1b[m\n" := by
  have undashed : Undashed ["2", "red"] := by
    intro word member
    exact (by decide +kernel : ∀ word ∈ ["2", "red"], word.startsWith "-" = false) word member
  have unnamed : "2" ∉ Program.commandNames := by decide
  obtain ⟨_, runs⟩ := default_mode forced_spelled undashed unnamed
  obtain ⟨flags, accepted, settles⟩ := runs (unset (plainSession .none)) rfl
  have globals := forced_globals accepted
  rw [globals] at settles
  obtain ⟨middle, tier, configured, inForce, prints⟩ := settles _ forced_undisturbed
  have colored : (outcome (Perform.configure forcedGlobals) (unset (plainSession .none))).2.styler.tier = some .truecolor := by
    decide +kernel
  rw [show outcome _ _ = _ from configured, inForce] at colored
  cases colored
  have expanded : expansion .truecolor "2" = .ok "2" := expansion_unclosed (by decide) _
  obtain ⟨after, returned, _, output⟩ := prints "\x1b[31m" "2" rfl expanded
  exact ⟨forced_spelled, undashed, unnamed, after, returned, output.trans (by decide +kernel)⟩

end TermStyle.Proofs.DefaultMode
