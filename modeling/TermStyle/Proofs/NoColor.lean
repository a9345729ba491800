import TermStyle.Proofs.MessageQuotes
import TermStyle.Proofs.ProblemReport
import TermStyle.Proofs.RunCourse
import TermStyle.Proofs.SettlingOutcome

/-! What a run shows where colours are disabled on its command line. Its help has no sequences, and its messages have none but
in what they quote, unless the settings fail to load: then nothing was disabled yet, and the message has the colours of
the tier that is found. -/

namespace TermStyle.Proofs.NoColor
open CommandLine Log ActionRun ActionFailure Logging StylerRun TierPrecedence ConsoleRun SettlingOutcome CommandOutcome RunCourse
open ProblemReport UnescapedText PlainHelp ValueSources MessageQuotes

variable {given : List String} {before middle session after : Session} {flags : Parsed} {globals : Globals} {settings : Settings}

section Tier

def Kept (before after : Session) : Prop := after.styler = before.styler

instance : IsPreorder Session Kept where
  refl _ := rfl
  trans _ _ _ first second := Eq.trans second first

theorem configured_disabled (disabled : globals.noColor = true) (configured : Returns (Perform.configure globals) before settings after) :
    after.styler.tier = some .none := by
  rw [configure_eq] at configured
  obtain ⟨loaded, _, _, configured⟩ := returns_bind.mp configured
  obtain ⟨_, _, _, configured⟩ := returns_bind.mp configured
  obtain ⟨_, third, _, configured⟩ := returns_bind.mp configured
  unfold overruling at configured
  rw [if_pos disabled] at configured
  obtain ⟨_, fourth, set, followed⟩ := returns_bind.mp configured
  obtain ⟨_, ⟨⟩, rfl⟩ := setLevel_returns.mp set
  obtain ⟨_, tier, level, inForce, _⟩ := following_returns followed
  cases tier with
  | none => exact inForce
  | basic | extended | truecolor => cases level

theorem loadIn_aside (path : Option String) : Leads Aside (Settings.loadIn path) :=
  leads_bind leads_world fun _ => leads_bind (note_aside _) fun _ => leads_ofExcept _

theorem unloaded_alike {problem : Problem}
    (unloaded : (loading globals before.world).value = .error (.problem problem))
    (failed : outcome (Perform.configure globals) before = (.error (.problem problem), session)) : Alike before session := by
  have aside := loadIn_aside globals.config before
  rw [configure_eq, outcome_bind] at failed
  cases loaded : outcome (Settings.loadIn globals.config) before with
  | mk result reached =>
    rw [loaded] at failed aside
    cases result with
    | error failure =>
      cases failed
      exact aside.toAlike
    | ok settings =>
      have found := (SettingsRun.loadIn_returns loaded).1
      cases found.symm.trans unloaded

theorem onStore_kept (change : Store.Change Unit) : Leads Kept (Action.onStore change) :=
  leads_bind leads_world fun _ => leads_bind (fun _ => rfl) fun _ => leads_lift _

theorem initSettings_kept (path : String) (mode level : Value) (force : Bool) :
    Leads Kept (Perform.initSettings path mode level force) :=
  RunFrame.initSettings_leads (fun _ _ _ => rfl) (fun _ _ => onStore_kept _) path mode level force

end Tier

section Showing

/-- The run shows a help text, one that was asked for or that of the program where no command is named. -/
inductive Helps (given : List String) (before : Session) : String → Session → Prop
  | asked {text session} (stops : Stops given before (.help text) session) : Helps given before text session
  | unnamed {flags settings middle tier full} (configured : Configured given before flags settings middle tier)
      (read : (Program.tree tier (Program.columns middle.world.env)).parse (DefaultCommand.insert given) = .ok full)
      (unasked : Command.ofParsed? full = none) :
      Helps given before (Help.render (Program.tree tier (Program.columns middle.world.env))) middle

/-- The text is all that such a run adds to the output. -/
theorem Helps.run {text : String} (helps : Helps given before text session) : ∃ ending, Returns (Perform.run given) before ending
    { session with world := { session.world with output := session.world.output ++ text } } := by
  cases helps with
  | asked stops => exact ⟨_, stops.run⟩
  | unnamed configured read unasked =>
    refine ⟨⟨1, false⟩, ?_⟩
    rw [Returns, configured.run, read]
    simp only [Perform.perform, unasked]
    rfl

/-- A message as it is printed at a tier. -/
def printed (tier : Tier) (message : String) : String :=
  if tier = .none then message else "\x1b[1m\x1b[31m" ++ message ++ "\x1b[m"

theorem error_printed (message : String) (tier : Tier) : Emphasis.error message tier = printed tier message := by
  have sequences : ∀ tier ∈ [Tier.basic, .extended, .truecolor],
      Emphasis.front "bold red" tier = "\x1b[1m\x1b[31m" := by decide +kernel
  have reset : Sequence.reset.render = "\x1b[m" := by decide +kernel
  by_cases none : tier = .none
  · rw [printed, if_pos none, none]
    exact styled_none _ _
  · have listed : tier ∈ [Tier.basic, .extended, .truecolor] := by
      cases tier with
      | none => exact absurd rfl none
      | basic | extended | truecolor => simp
    rw [printed, if_neg none, Emphasis.error, Emphasis.styled, sequences tier listed, reset]
    rfl

end Showing

section Words

theorem insert_given {word : String} (member : word ∈ DefaultCommand.insert given) : word ∈ given ∨ word = DefaultCommand.name := by
  have whole := TwoReadings.split_append given
  have completed (words : List String) : ∀ word ∈ DefaultCommand.completed words, word ∈ words ∨ word = DefaultCommand.name := by
    intro word member
    cases words with
    | nil => cases member
    | cons first rest =>
      rw [DefaultCommand.completed] at member
      split at member
      · exact (List.mem_cons.mp member).symm.imp_left (List.mem_cons_of_mem _)
      · split at member
        · exact Or.inl member
        · exact (List.mem_cons.mp member).symm
  rw [← whole]
  rcases List.mem_append.mp member with front | back
  · exact Or.inl (List.mem_append_left _ front)
  · exact (completed _ word back).imp_left (List.mem_append_right _)

/-- The name that may be put in has no place for a sequence. -/
theorem drawn_given {words : List String} (within : words ⊆ DefaultCommand.insert given) {text : String} (drawn : Drawn words text) :
    Unescaped text ∨ Drawn given text := by
  obtain ⟨word, member, ending⟩ := drawn
  rcases insert_given (within member) with listed | rfl
  · exact Or.inr ⟨word, listed, ending⟩
  · have plain : Unescaped DefaultCommand.name := by decide
    exact Or.inl fun inside => plain (ending.mem inside)

theorem quotes_given {words : List String} (within : words ⊆ DefaultCommand.insert given) {world : World} {path : Option String}
    {text : String} (quotes : Quotes (Quotation words world path) text) : Quotes (Quotation given world path) text := by
  obtain ⟨front, quoted, back, same, first, last, shown⟩ := quotes
  refine ⟨front, quoted, back, same, first, last, ?_⟩
  rcases shown with plain | quotation
  · exact Or.inl plain
  · cases quotation with
    | word drawn => exact (drawn_given within drawn).imp_right .word
    | normal drawn => exact (drawn_given within drawn).imp normal_unescaped .normal
    | binding there form => exact Or.inr (.binding there form)
    | entry consulted member => exact Or.inr (.entry consulted member)

theorem preliminary_within (words : List String) : Perform.preliminaryWords words ⊆ words := by
  intro word member
  have front := (List.mem_filter.mp member).1
  rw [← TwoReadings.split_append words]
  exact List.mem_append_left _ front

end Words

section Runs

variable (accepted : (Program.preliminary (Program.columns before.world.env)).parse
    (Perform.preliminaryWords (DefaultCommand.insert given)) = .ok flags)
  (disabled : (Globals.ofParsed flags).noColor = true)

include accepted

theorem configured_flags {other : Parsed} {tier : Tier} (configured : Configured given before other settings middle tier) :
    other = flags := Except.ok.inj (configured.accepted.symm.trans accepted)

/-- Where settling comes to a problem, the settings could not be loaded. -/
theorem settling_unloaded {problem : Problem}
    (failed : outcome (Perform.configure (.ofParsed flags)) before = (.error (.problem problem), session)) :
    LoadOutcome.Unloaded before.world.store before.world.env (Globals.ofParsed flags).config (.problem problem) := by
  have unsettled := (configure_fails accepted).mp (fails_iff.mpr ⟨_, failed⟩)
  generalize same : Failure.problem problem = failure at unsettled
  cases unsettled with
  | unloaded told unloaded =>
    exact unloaded
  | refused | blind | leveless => cases same

include disabled

theorem configured_silent {other : Parsed} {tier : Tier} (configured : Configured given before other settings middle tier) :
    tier = .none := by
  obtain rfl := configured_flags accepted configured
  exact Option.some.inj (configured.inForce.symm.trans (configured_disabled disabled configured.configured))

theorem helps_plain {text : String} (helps : Helps given before text session) : Unescaped text := by
  cases helps with
  | asked stops =>
    cases stops with
    | first refused => cases accepted.symm.trans refused
    | second configured refused =>
      obtain rfl := configured_silent accepted disabled configured
      exact parse_help (tree_clear _) refused
  | unnamed configured read unasked =>
    obtain rfl := configured_silent accepted disabled configured
    exact help_unescaped (tree_clear _)

theorem comes_quotes {problem : Problem} (comes : ComesTo given before problem session) :
    Quotes (Quotation given before.world (Globals.ofParsed flags).config) problem.text ∧
      ((∃ settings middle, Returns (Perform.configure (.ofParsed flags)) before settings middle) ∧ reached session = .ok 0 ∨
        (¬ ∃ settings middle, Returns (Perform.configure (.ofParsed flags)) before settings middle) ∧
          reached session = reached before) := by
  cases comes with
  | settling read failed =>
    obtain rfl := Except.ok.inj (read.symm.trans accepted)
    have unloaded := settling_unloaded accepted failed
    constructor
    · exact quotes_given (preliminary_within _) (unloaded_quotes accepted unloaded)
    · refine Or.inr ⟨?_, (unloaded_alike (LoadOutcome.load_fails.mpr unloaded) failed).reached⟩
      rintro ⟨settings, middle, configured⟩
      cases failed.symm.trans configured
  | @performing globals settings command middle tier _ performs failed =>
    obtain ⟨⟨other, configured, rfl⟩, full, read, asked⟩ := performs
    obtain rfl := configured_flags accepted configured
    obtain rfl := configured_silent accepted disabled configured
    have breaks := (command_fails configured.inForce _ _ _).mp (fails_iff.mpr ⟨_, failed⟩)
    refine ⟨quotes_given (List.Subset.refl _) (breaks_quotes read asked breaks), Or.inl ⟨⟨_, _, configured.configured⟩, ?_⟩⟩
    obtain ⟨path, mode, level, force, rfl⟩ := breaks_writing breaks
    have kept := initSettings_kept path mode level force middle
    have same : outcome (Perform.initSettings path mode level force) middle = (.error (.problem problem), session) := failed
    rw [same] at kept
    have inForce : session.styler.tier = some .none := by
      rw [show session.styler = middle.styler from kept]
      exact configured.inForce
    exact reached_inForce inForce

/-- Where colours are disabled, help has no sequences. Messages have none but in their quotations and are printed as they are,
unless settings fail to load at a tier that shows them in colours. -/
theorem disabled_colors :
    (∀ text session, Helps given before text session → Unescaped text) ∧
    ∀ problem session, ComesTo given before problem session →
      Quotes (Quotation given before.world (Globals.ofParsed flags).config) ("Error: " ++ problem.text) ∧
      ∀ ending after, Returns (Perform.run given) before ending after → ∃ tier world, Logged session.world world ∧
        after.world = world.report (printed tier ("Error: " ++ problem.text)) ∧
        (tier = .none ↔ (∃ settings middle, Returns (Perform.configure (.ofParsed flags)) before settings middle) ∨
          reached before = .ok 0) := by
  refine ⟨fun _ _ helps => helps_plain accepted disabled helps, fun problem session comes => ?_⟩
  obtain ⟨quotes, found⟩ := comes_quotes accepted disabled comes
  refine ⟨quotes.behind (by decide), fun ending after returned => ?_⟩
  rw [Returns, comes.run] at returned
  obtain ⟨_, tier, world, level, logged, shown⟩ := reported_returns returned
  refine ⟨tier, world, logged, error_printed _ _ ▸ shown, ?_⟩
  have zero : reached session = .ok 0 ↔ tier = .none := by
    rw [level]
    cases tier <;> simp [Tier.level]
  rcases found with ⟨settled, silent⟩ | ⟨unsettled, same⟩
  · exact iff_of_true (zero.mp silent) (Or.inl settled)
  · rw [← zero, same, or_iff_right unsettled]

end Runs

def vivid : Session :=
  let plain := unset (plainSession .none)
  { plain with world := { plain.world with env := ⟨[("COLORTERM", "truecolor")]⟩ } }

def absent : List String := ["--no-color", "--config", "nope.yml", "detect"]

private def isProblem : Except Failure α → Bool
  | .error (.problem _) => true
  | _ => false

private theorem isProblem_iff {result : Except Failure α} :
    isProblem result = true ↔ ∃ problem, result = .error (.problem problem) := by
  unfold isProblem
  split
  next problem => exact iff_of_true rfl ⟨problem, rfl⟩
  next other =>
    refine iff_of_false Bool.false_ne_true ?_
    rintro ⟨problem, same⟩
    exact other problem same

private theorem absent_accepted : ∃ flags, (Program.preliminary (Program.columns vivid.world.env)).parse
      (Perform.preliminaryWords (DefaultCommand.insert absent)) = .ok flags ∧ (Globals.ofParsed flags).noColor = true ∧
    ∃ problem session, outcome (Perform.configure (.ofParsed flags)) vivid = (.error (.problem problem), session) := by
  have read : ((Program.preliminary (Program.columns vivid.world.env)).parse
      (Perform.preliminaryWords (DefaultCommand.insert absent))).toOption.any (fun flags =>
        (Globals.ofParsed flags).noColor && isProblem (outcome (Perform.configure (.ofParsed flags)) vivid).1) = true := by
    decide +kernel
  obtain ⟨flags, accepted, both⟩ := (Option.any_eq_true _ _).mp read
  obtain ⟨disabled, failed⟩ := Bool.and_eq_true_iff.mp both
  obtain ⟨problem, same⟩ := isProblem_iff.mp failed
  exact ⟨flags, ExceptSteps.toOption_some_iff.mp accepted, disabled, problem, _, Prod.ext same rfl⟩

theorem disabled_colors_absent : ∃ flags, (Program.preliminary (Program.columns vivid.world.env)).parse
      (Perform.preliminaryWords (DefaultCommand.insert absent)) = .ok flags ∧ (Globals.ofParsed flags).noColor = true ∧
    (∀ text session, Helps absent vivid text session → Unescaped text) ∧
    ∃ problem session, ComesTo absent vivid problem session ∧
      Quotes (Quotation absent vivid.world (Globals.ofParsed flags).config) ("Error: " ++ problem.text) := by
  obtain ⟨flags, accepted, disabled, problem, session, failed⟩ := absent_accepted
  obtain ⟨helps, messages⟩ := disabled_colors accepted disabled
  have comes : ComesTo absent vivid problem session := .settling accepted failed
  exact ⟨flags, accepted, disabled, helps, problem, session, comes, (messages problem session comes).1⟩

/-- Nothing that is given holds a sequence, but the message is printed in colours. -/
theorem absent_file_colored :
    (∃ flags, (Program.preliminary (Program.columns vivid.world.env)).parse
      (Perform.preliminaryWords (DefaultCommand.insert absent)) = .ok flags ∧ (Globals.ofParsed flags).noColor = true) ∧
    (∀ word ∈ absent, Unescaped word) ∧ (∀ entry ∈ vivid.world.env.bindings, Unescaped entry.2) ∧ vivid.world.store = .empty ∧
    ∃ after, Returns (Perform.run absent) vivid ⟨1, false⟩ after ∧
      after.world.errors = printed .truecolor "Error: Config file not found (config_path=nope.yml)" ++ "\n" ∧
      ¬ Unescaped after.world.errors := by
  have ends : (outcome (Perform.run absent) vivid).1.toOption = some ⟨1, false⟩ ∧
      (outcome (Perform.run absent) vivid).2.world.errors =
        printed .truecolor "Error: Config file not found (config_path=nope.yml)" ++ "\n" := by decide +kernel
  obtain ⟨flags, accepted, disabled, _⟩ := absent_accepted
  obtain ⟨ended, errors⟩ := ends
  refine ⟨⟨flags, accepted, disabled⟩, by decide +kernel, by decide +kernel, rfl, (outcome (Perform.run absent) vivid).2,
    Prod.ext (ExceptSteps.toOption_some_iff.mp ended) rfl, errors, ?_⟩
  rw [errors]
  decide +kernel

end TermStyle.Proofs.NoColor
