import TermStyle.Proofs.ConsoleReport
import TermStyle.Proofs.RunCourse

/-! What a run of the program does to the platform. It talks to it only where it lets the console show styles, which is
the last step of settling the settings. So a run does at most one thing to the platform, never to its registry, and
nothing where the output is plain. -/

namespace TermStyle.Proofs.ConsoleAloof
open CommandLine Log ActionRun ConsoleOutcome ConsoleRun ConsoleTrace ConsoleReport Logging Platform RunCourse RunFrame
open SettlingOutcome StylerRun TierPrecedence

structure Still (before after : Session) : Prop where
  platform : after.world.platform = before.world.platform
  env : after.world.env = before.world.env

instance : IsPreorder Session Still where
  refl _ := ⟨rfl, rfl⟩
  trans _ _ _ first second := ⟨second.platform.trans first.platform, second.env.trans first.env⟩

theorem performing_still : Performing Still where
  noted records session := by
    have logged := (note_logged records session).2
    exact ⟨by rw [logged.rest], by rw [logged.rest]⟩
  styled _ _ _ := ⟨rfl, rfl⟩
  restricted _ _ := ⟨rfl, rfl⟩
  painted _ _ := ⟨rfl, rfl⟩
  shown _ _ _ := ⟨rfl, rfl⟩

theorem onStore_still (change : Store.Change Unit) : Leads Still (Action.onStore change) :=
  leads_bind leads_world fun _ => leads_bind (fun _ => ⟨rfl, rfl⟩) fun _ => leads_lift _

/-- All that a run may do to the platform. -/
inductive Touch (kernel : Kernel) (path : String) : List Event → Prop
  | nothing : Touch kernel path []
  | helper (started : Outcome) : Touch kernel path [ran [path, "-p"] started]
  | streams (output errors : Int) : Touch kernel path
      (streamRequests kernel Console.outputHandle output ++ streamRequests kernel Console.errorHandle errors)

/-- Where the registry is to be left alone, the set-up reports and does no more than that. -/
theorem course_touch {facts : Console.Facts} {kernel : Kernel} {path : String} {events : List Event}
    {result : Except Failure Console.Report} (course : ConsoleTrace.Course facts kernel path true none events result) :
    Touch kernel path events := by
  cases course with
  | elsewhere => exact .nothing
  | helper _ _ started => exact .helper started
  | interface _ _ _ output errors => exact .streams output errors
  | registry _ _ _ way =>
    rw [way.nothing rfl]
    exact .nothing

/-- What was done to the platform between two sessions. -/
structure Touched (before : Session) (events : List Event) (after : Session) : Prop where
  replays : Replays before.world.platform events after.world.platform
  touch : Touch before.world.platform.kernel (Console.helper before.world.env) events
  windows : events ≠ [] → before.world.platform.onWindows = true

section Touches

variable {before middle after : Session} {events : List Event}

theorem Touched.of_still (still : Still before after) : Touched before [] after :=
  ⟨still.platform, .nothing, fun some => absurd rfl some⟩

theorem Touched.behind (still : Still before middle) (touched : Touched middle events after) : Touched before events after := by
  obtain ⟨replays, touch, windows⟩ := touched
  rw [still.platform] at replays windows touch
  rw [still.env] at touch
  exact ⟨replays, touch, windows⟩

theorem Touched.ahead (touched : Touched before events middle) (still : Still middle after) : Touched before events after := by
  obtain ⟨replays, touch, windows⟩ := touched
  rw [← still.platform] at replays
  exact ⟨replays, touch, windows⟩

end Touches

theorem enableConsole_touched {before : Session} {tier : Tier} (inForce : before.styler.tier = some tier) : ∃ events after,
    Returns Perform.enableConsole before () after ∧ Touched before events after ∧ (events ≠ [] → tier ≠ .none) := by
  simp only [Returns, Perform.enableConsole, outcome_bind, outcome_world, andThen_ok, level_kept inForce]
  split
  next needed =>
    obtain ⟨windows, colored⟩ := Bool.and_eq_true_iff.mp needed
    obtain ⟨report, middle, enabled⟩ := enable_sure true none before
    obtain ⟨events, after, reported, run, replays, course⟩ := enableAsking_replays none true none before
    obtain ⟨rfl, rfl⟩ := Prod.mk.inj (run.symm.trans enabled)
    have touched : Touched before events after := ⟨replays, course_touch course, fun _ => windows⟩
    let record := Record.debug CommandLine.logger
      ("Console VT processing enabled=" ++ Value.boolLiteral report.enabled ++ " via " ++ report.method.name)
    have noted := performing_still.noted [record] after
    rw [note_single rfl] at noted
    refine ⟨events, emitted [record] after, ?_, touched.ahead noted, fun _ => by simpa using colored⟩
    rw [outcome_behind enabled, note_single rfl]
  next => exact ⟨[], before, rfl, .of_still (refl before), fun some => absurd rfl some⟩

/-- What becomes of settings that are to be settled, and what it takes to touch the platform on the way. -/
inductive Arrival (before : Session) : Except Failure Settings × Session → Prop
  | failed {failure after} (still : Still before after) : Arrival before (.error failure, after)
  | settled {settings after events tier} (touched : Touched before events after) (inForce : after.styler.tier = some tier)
      (colored : events ≠ [] → tier ≠ Tier.none) : Arrival before (.ok settings, after)

section Arrivals

theorem arrival_behind {first : Action α} {next : α → Action Settings} (still : Leads Still first)
    (rest : ∀ value before, Arrival before (outcome (next value) before)) (before : Session) :
    Arrival before (outcome (first >>= next) before) := by
  have ahead := still before
  rw [outcome_bind]
  cases run : outcome first before with
  | mk result middle =>
    rw [run] at ahead
    cases result with
    | error failure => exact .failed ahead
    | ok value =>
      have arrival := rest value middle
      rw [andThen_ok]
      generalize outcome (next value) middle = left at arrival
      cases arrival with
      | failed still => exact .failed (IsTrans.trans _ _ _ ahead still)
      | settled touched inForce colored => exact .settled (.behind ahead touched) inForce colored

theorem following_arrival (settings : Settings) (before : Session) : Arrival before (outcome (following settings) before) := by
  have still := level_leads performing_still.toSettling before
  rw [following, outcome_bind]
  cases reading : outcome Styler.level before with
  | mk result read =>
    rw [reading] at still
    cases result with
    | error failure => exact .failed still
    | ok tier =>
      obtain ⟨painted, run, styler, _⟩ := paint_run tier.level read
      have painting := paint_leads performing_still.toSettling (.int tier.level) read
      rw [run] at painting
      have inForce : painted.styler.tier = some tier := by
        rw [styler]
        exact (level_settles reading).1
      obtain ⟨events, after, enabled, touched, colored⟩ := enableConsole_touched inForce
      have kept := enableConsole_aside inForce
      rw [enabled] at kept
      rw [andThen_ok, outcome_behind run, outcome_behind enabled]
      refine .settled (.behind (IsTrans.trans _ _ _ still painting) touched) ?_ colored
      rw [kept.styler]
      exact inForce

theorem overruling_arrival (globals : Globals) (settings : Settings) (before : Session) :
    Arrival before (outcome (overruling globals settings) before) := by
  have setting (value : Value) :=
    arrival_behind (setLevel_leads performing_still.toSettling value) fun _ => following_arrival settings
  unfold overruling
  dsimp only
  split
  · exact setting _ before
  · split
    · exact following_arrival settings before
    · exact setting _ before

theorem configure_arrival (globals : Globals) (before : Session) :
    Arrival before (outcome (Perform.configure globals) before) := by
  rw [configure_eq]
  refine arrival_behind (loadIn_leads performing_still.toSettling _) (fun settings => ?_) before
  refine arrival_behind (restrict_leads performing_still.toSettling _) fun _ => ?_
  exact arrival_behind (apply_leads performing_still.toSettling settings) fun _ => overruling_arrival globals settings

end Arrivals

theorem unfolding_still (words : List String) (settled : Except Failure Settings × Session) :
    Still settled.2 (unfolding words settled).2 := by
  obtain ⟨result, session⟩ := settled
  cases result with
  | ok settings => exact settled_leads performing_still (fun _ _ => onStore_still _) words settings session
  | error failure =>
    cases failure with
    | problem problem => exact reported_leads performing_still problem session
    | interrupt | fault => exact refl session

theorem Touch.foreign {kernel : Kernel} {path : String} {events : List Event} (touch : Touch kernel path events) :
    ∀ event ∈ events, ¬ Queries event ∧ ¬ Adds event := by
  cases touch with
  | nothing => exact List.forall_mem_nil _
  | helper started =>
    exact List.forall_mem_singleton.mpr ⟨helper_runs path (by decide) started, helper_runs path (by decide) started⟩
  | streams output errors => simp [streamRequests, Runs]

/-- A run of the program does at most one of two things to the platform: it starts the helper program, or it asks for the
mode of both streams. Neither has to do with the registry, and neither is done but on Windows with a tier in effect,
after the settings and the flags, that has colours. -/
theorem console_left_alone (given : List String) (before : Session) : ∃ events,
    Replays before.world.platform events (outcome (Perform.run given) before).2.world.platform ∧
      Touch before.world.platform.kernel (Console.helper before.world.env) events ∧ (∀ event ∈ events, ¬ Queries event ∧ ¬ Adds event) ∧
      (events ≠ [] → before.world.platform.onWindows = true ∧ ∃ flags settings middle tier,
        Configured given before flags settings middle tier ∧
          prevailing (.ofParsed flags) settings before.styler.tier (sounded before) = .ok tier.level ∧ 0 < tier.level) := by
  suffices way : ∃ events after, Touched before events after ∧ Still after (outcome (Perform.run given) before).2 ∧
      (events ≠ [] → ∃ flags settings tier, Configured given before flags settings after tier ∧ tier ≠ .none) by
    obtain ⟨events, after, touched, still, way⟩ := way
    have whole := touched.ahead still
    refine ⟨events, whole.replays, whole.touch, whole.touch.foreign, fun some => ⟨whole.windows some, ?_⟩⟩
    obtain ⟨flags, settings, tier, configured, colored⟩ := way some
    obtain ⟨_, reached, inForce, level, _⟩ := configured_prevailing configured.accepted configured.configured
    obtain rfl := Option.some.inj (inForce.symm.trans configured.inForce)
    refine ⟨flags, settings, after, reached, configured, level, ?_⟩
    cases reached with
    | none => exact absurd rfl colored
    | basic | extended | truecolor => decide
  cases accepted : (Program.preliminary (Program.columns before.world.env)).parse
      (Perform.preliminaryWords (DefaultCommand.insert given)) with
  | error stop =>
    rw [run_refused accepted]
    exact ⟨[], before, .of_still (refl before), stopped_leads performing_still.shown stop before, fun some => absurd rfl some⟩
  | ok flags =>
    have arrival := configure_arrival (.ofParsed flags) before
    rw [run_accepted accepted]
    cases configured : outcome (Perform.configure (.ofParsed flags)) before with
    | mk result after =>
      rw [configured] at arrival
      have still := unfolding_still (DefaultCommand.insert given) (result, after)
      cases arrival with
      | failed left => exact ⟨[], after, .of_still left, still, fun some => absurd rfl some⟩
      | @settled settings _ events tier touched inForce colored =>
        exact ⟨events, after, touched, still, fun some => ⟨flags, settings, tier, ⟨accepted, configured, inForce⟩, colored some⟩⟩

end TermStyle.Proofs.ConsoleAloof
