import TermStyle.Proofs.ConsoleOutcome
import TermStyle.Proofs.LoadOutcome
import TermStyle.Proofs.RunFrame

/-! Settling the settings: what it leaves alone, and when it fails. Nothing is printed, and what detection looks at stays
as it is. It fails where loading does, where a tier is needed and detection finds none, and where the flag for the
level was left without one. -/

namespace TermStyle.Proofs.SettlingOutcome
open CommandLine Log ActionRun ActionFailure Logging StylerRun TierReading ConsoleRun ConsoleOutcome SettingsRun FlagValues TierPrecedence RunFrame

/-- The same detector looks at the same things, and nothing was printed. -/
structure Steady (before after : Session) : Prop where
  detector : after.styler.detector = before.styler.detector
  env : after.world.env = before.world.env
  onWindows : after.world.platform.onWindows = before.world.platform.onWindows
  version : after.world.platform.version = before.world.platform.version
  output : after.world.output = before.world.output
  interrupting : after.world.interrupting = before.world.interrupting

instance : IsPreorder Session Steady where
  refl _ := ⟨rfl, rfl, rfl, rfl, rfl, rfl⟩
  trans _ _ _ first second := ⟨second.detector.trans first.detector, second.env.trans first.env,
    second.onWindows.trans first.onWindows, second.version.trans first.version, second.output.trans first.output,
    second.interrupting.trans first.interrupting⟩

section Frames

theorem Steady.ofAside {before after : Session} (aside : Aside before after) : Steady before after :=
  ⟨congrArg Styler.detector aside.styler, aside.env, aside.onWindows, aside.version, aside.output, aside.interrupting⟩

theorem settling_steady : Settling Steady where
  noted records session := .ofAside (note_aside records session)
  styled _ _ _ := ⟨rfl, rfl, rfl, rfl, rfl, rfl⟩
  restricted _ _ := ⟨rfl, rfl, rfl, rfl, rfl, rfl⟩
  painted _ _ := ⟨rfl, rfl, rfl, rfl, rfl, rfl⟩

theorem configure_steady (globals : Globals) : Leads Steady (Perform.configure globals) :=
  configure_leads settling_steady (fun session => .ofAside (enable_aside true none session)) globals

end Frames

section Failures

variable {before after : Session} {failure : Failure} {settings : Settings} {globals : Globals}

theorem loadIn_fails {path : Option String} : Fails (Settings.loadIn path) before failure ↔
    (∃ fault, (Settings.load before.world.store before.world.env path).records.findSome? before.world.refusal? = some fault ∧
      failure = .fault fault) ∨
    (Settings.load before.world.store before.world.env path).records.findSome? before.world.refusal? = none ∧
      (Settings.load before.world.store before.world.env path).value = .error failure := by
  have world : Returns Action.world before before.world before := rfl
  rw [Settings.loadIn, fails_behind world]
  cases refused : (Settings.load before.world.store before.world.env path).records.findSome? before.world.refusal? with
  | some fault =>
    rw [fails_bind, note_fails, refused]
    simp only [Option.some.injEq, reduceCtorEq, false_and, or_false]
    refine or_iff_left ?_
    rintro ⟨_, middle, returned, _⟩
    exact returns_unfailing returned (note_fails.mpr ⟨fault, refused, rfl⟩)
  | none =>
    rcases returns_or_fails (Action.note (Settings.load before.world.store before.world.env path).records) before with
      ⟨_, middle, noted⟩ | ⟨_, failed⟩
    · rw [fails_behind noted, fails_ofExcept]
      simp
    · obtain ⟨fault, listed, _⟩ := note_fails.mp failed
      rw [refused] at listed
      cases listed

theorem enableConsole_returns {tier : Tier} (inForce : before.styler.tier = some tier) :
    ∃ after, Returns Perform.enableConsole before () after := by
  have enabling (needed : Bool) : Sure (do
      if needed then
        let report ← Platform.Console.enable true none
        Action.note [.debug logger
          ("Console VT processing enabled=" ++ Value.boolLiteral report.enabled ++ " via " ++ report.method.name)]) := by
    cases needed with
    | false => exact sure_pure _
    | true => exact sure_bind (enable_sure true none) fun _ => sure_bare rfl
  simp only [Returns, Perform.enableConsole, outcome_bind, outcome_world, andThen_ok, level_kept inForce]
  obtain ⟨_, after, returned⟩ := enabling (before.world.platform.onWindows && tier != .none) before
  exact ⟨after, returned⟩

theorem following_fails : Fails (following settings) before failure ↔ Fails Styler.level before failure := by
  rw [following, fails_bind, or_iff_left]
  rintro ⟨tier, read, level, failed⟩
  obtain ⟨painted, run, styler, _⟩ := paint_run tier.level read
  have inForce : painted.styler.tier = some tier := by
    rw [styler]
    exact (level_settles level).1
  obtain ⟨shown, enabled⟩ := enableConsole_returns inForce
  rw [fails_behind run, fails_behind enabled] at failed
  exact fails_pure failed

theorem resolve_fails : Fails (settings.resolve do return .int (← Styler.level).level) before failure ↔
    if settings.hasLevel then ∃ fault, Tier.coerce settings.level = .error fault ∧ failure = .fault fault
    else if settings.hasMode Settings.never then False
    else Fails Styler.level before failure := by
  unfold Settings.resolve
  split
  · exact fails_lift
  · split
    · exact iff_of_false fails_pure id
    · rw [fails_bind, fails_bind_sure fun _ => sure_pure _, or_iff_left]
      rintro ⟨value, middle, read, failed⟩
      obtain ⟨found, _, rfl⟩ := returns_map.mp read
      rw [coerce_level, fails_bind_sure fun _ => sure_pure _, fails_lift] at failed
      obtain ⟨_, ⟨⟩, _⟩ := failed

theorem setLevel_sure (tier : Tier) : Sure (Styler.setLevel (.int tier.level)) :=
  fun before => ⟨(), settled tier before, setLevel_ok (coerce_level tier) before⟩

def Raises (settings : Settings) : Prop := settings.hasLevel = false ∧ settings.hasMode Settings.always = true

theorem Raises.pins (raises : Raises settings) (fine : settings.problem? = none) : settings.pinsTier = true := by
  rcases mode_cases fine with mode | mode | mode
  · exact absurd raises.2 (by simp only [Settings.hasMode, mode]; decide)
  · simp only [Settings.pinsTier, Settings.hasMode, mode, Bool.or_eq_true]
    exact Or.inr (by decide)
  · exact absurd raises.2 (by simp only [Settings.hasMode, mode]; decide)

/-- Settings that were checked fail to be applied only where a tier is to be raised and none is found. -/
theorem apply_fails (fine : settings.problem? = none) : Fails settings.apply before failure ↔
    Raises settings ∧ ∃ fault, sounded before = .error fault ∧ failure = .fault fault := by
  unfold Settings.apply
  split
  next trusting =>
    refine iff_of_false fails_pure ?_
    rintro ⟨raises, _⟩
    rw [raises.pins fine] at trusting
    cases trusting
  next pins =>
    have reset : Returns Styler.resetLevel before () (unset before) := rfl
    rw [fails_behind reset, fails_bind_sure fun tier => sure_bind (setLevel_sure tier) fun _ => sure_bare rfl, resolve_fails]
    unfold Raises
    cases leveled : settings.hasLevel with
    | true =>
      rcases level_cases fine with null | ⟨number, same, _⟩
      · simp [Settings.hasLevel, null] at leveled
      · simp [same, Tier.coerce]
    | false =>
      have same : sounded (unset before) = sounded before := rfl
      rcases mode_cases fine with mode | mode | mode
      · simp [Settings.pinsTier, leveled, Settings.hasMode, mode] at pins
      · have notNever : (Settings.always == Settings.never) = false := by decide
        simp [Settings.hasMode, mode, notNever, level_fails, same, show (unset before).styler.tier = none from rfl]
      · have notAlways : (Settings.never == Settings.always) = false := by decide
        simp [Settings.hasMode, mode, notAlways]

/-- Settings that leave the tier alone leave everything alone; others put one in force. -/
theorem apply_level_fails (applied : Returns settings.apply before () after) :
    Fails Styler.level after failure ↔ settings.pinsTier = false ∧ Fails Styler.level before failure := by
  unfold Settings.apply at applied
  split at applied
  next trusting =>
    obtain ⟨_, rfl⟩ := returns_pure.mp applied
    simp [show settings.pinsTier = false by simpa using trusting]
  next pins =>
    obtain ⟨_, _, _, applied⟩ := returns_bind.mp applied
    obtain ⟨tier, _, _, applied⟩ := returns_bind.mp applied
    obtain ⟨_, middle, set, noted⟩ := returns_bind.mp applied
    have aside := note_aside [.debug Settings.logger s!"Support tier set from configuration: {tier.level}"] middle
    rw [noted] at aside
    obtain ⟨found, _, rfl⟩ := setLevel_returns.mp set
    have inForce : after.styler.tier = some found := congrArg Styler.tier aside.styler
    refine iff_of_false (fun failed => ?_) (fun trusting => pins (by simp [trusting.1]))
    rw [level_fails, inForce] at failed
    cases failed.1

/-- The end of the configuration, in which flags overrule what there is. -/
def overruling (globals : Globals) (settings : Settings) : Action Settings := do
  if globals.noColor then Styler.setLevel (.int 0)
  else match globals.level with
    | .null => pure ()
    | level => Styler.setLevel level
  following settings

theorem overruling_fails : Fails (overruling globals settings) before failure ↔ globals.noColor = false ∧
    (globals.level = .null ∧ Fails Styler.level before failure ∨
      globals.level ≠ .null ∧ ∃ fault, Tier.coerce globals.level = .error fault ∧ failure = .fault fault) := by
  have setting (value : Value) : Fails (Styler.setLevel value >>= fun _ => following settings) before failure ↔
      ∃ fault, Tier.coerce value = .error fault ∧ failure = .fault fault := by
    rw [fails_bind, setLevel_fails, or_iff_left]
    rintro ⟨_, middle, set, failed⟩
    obtain ⟨tier, _, rfl⟩ := setLevel_returns.mp set
    rw [following_fails, level_fails] at failed
    cases failed.1
  unfold overruling
  dsimp only
  cases noColor : globals.noColor with
  | true => simp [setting, Tier.coerce]
  | false =>
    cases level : globals.level with
    | null => simp [following_fails]
    | _ => simp [setting]

theorem overruling_returns {loaded : Settings} (overruled : Returns (overruling globals loaded) before settings after) :
    settings = loaded ∧ ∃ tier, after.styler.tier = some tier := by
  suffices followed : ∃ last, Returns (following loaded) last settings after by
    obtain ⟨last, followed⟩ := followed
    obtain ⟨same, tier, _, inForce, _⟩ := following_returns followed
    exact ⟨same, tier, inForce⟩
  unfold overruling at overruled
  dsimp only at overruled
  split at overruled
  · obtain ⟨_, last, _, followed⟩ := returns_bind.mp overruled
    exact ⟨last, followed⟩
  · split at overruled
    · exact ⟨before, overruled⟩
    · obtain ⟨_, last, _, followed⟩ := returns_bind.mp overruled
      exact ⟨last, followed⟩

theorem configure_eq (globals : Globals) : Perform.configure globals = (do
    let settings ← Settings.loadIn globals.config
    Setup.restrict ((globals.logLevel.map .text).getD settings.logLevel)
    settings.apply
    overruling globals settings) := rfl

theorem read_capitals {choices : List String} {text : String} {value : Value}
    (read : (Kind.capitals choices).read text = .ok value) : ∃ name ∈ choices, value = .text name := by
  simp only [Kind.read, Kind.chosen] at read
  split at read
  next listed =>
    cases read
    exact ⟨_, by simpa using listed, rfl⟩
  · cases read

theorem logLevel_accepted {columns : Int} {words : List String} {parsed : Parsed}
    (accepted : (Program.preliminary columns).parse words = .ok parsed) {name : String}
    (said : (Globals.ofParsed parsed).logLevel = some name) : Text.CaseMap.upper name ∈ Settings.logLevels := by
  have stands : parsed.get "log_level" = .text name := by
    simp only [Globals.ofParsed, Parsed.text?] at said
    split at said
    next text same =>
      cases said
      exact same
    · cases said
  unfold Parsed.get at stands
  cases looked : parsed.values.lookup "log_level" with
  | none => simp [looked] at stands
  | some value =>
    rw [looked, Option.getD_some] at stands
    obtain ⟨front, back, split, _⟩ := List.lookup_eq_some_iff.mp looked
    have accounted := parse_accounted accepted ("log_level", value) (by simp [split])
    generalize named : ("log_level", value) = entry at accounted
    cases accounted with
    | operand member => cases member
    | menu given => cases given
    | @flag flag found member leaves =>
      obtain ⟨field, rfl⟩ := Prod.mk.inj named
      simp only [Program.globalFlags, List.mem_cons, List.not_mem_nil, or_false] at member
      rcases member with rfl | rfl | rfl | rfl
      · simp at field
      · simp at field
      · simp at field
      · cases leaves with
        | unsaid => cases stands
        | switched effect => cases effect
        | separated => cases stands
        | read effect read =>
          cases effect
          obtain ⟨_, listed, rfl⟩ := read_capitals read
          cases stands
          exact (by decide : ∀ name ∈ Settings.logLevels, Text.CaseMap.upper name ∈ Settings.logLevels) name listed

/-- What loading the settings comes to, with the records made on the way. -/
def loading (globals : Globals) (world : World) : Noted (Except Failure Settings) :=
  Settings.load world.store world.env globals.config

theorem configure_returns (configured : Returns (Perform.configure globals) before settings after) :
    (loading globals before.world).value = .ok settings ∧ ∃ tier, after.styler.tier = some tier := by
  rw [configure_eq] at configured
  obtain ⟨loaded, _, loading, configured⟩ := returns_bind.mp configured
  obtain ⟨_, _, _, configured⟩ := returns_bind.mp configured
  obtain ⟨_, _, _, overruled⟩ := returns_bind.mp configured
  obtain ⟨rfl, inForce⟩ := overruling_returns overruled
  exact ⟨(SettingsRun.loadIn_returns loading).1, inForce⟩

/-- The settings are loaded, and the records of that can be noted. -/
structure Loads (globals : Globals) (before : Session) (settings : Settings) : Prop where
  told : (loading globals before.world).records.findSome? before.world.refusal? = none
  found : (loading globals before.world).value = .ok settings

/-- Only detection can say what the tier is. -/
structure Trusts (globals : Globals) (settings : Settings) (prior : Option Tier) : Prop where
  colored : globals.noColor = false
  unsaid : globals.level = .null
  unpinned : settings.pinsTier = false
  unset : prior = none

/-- How settling the settings fails. -/
inductive Unsettled (globals : Globals) (before : Session) : Failure → Prop
  | refused {fault : Fault} (listed : (loading globals before.world).records.findSome? before.world.refusal? = some fault) :
      Unsettled globals before (.fault fault)
  | unloaded {cause : Failure} (told : (loading globals before.world).records.findSome? before.world.refusal? = none)
      (failed : LoadOutcome.Unloaded before.world.store before.world.env globals.config cause) : Unsettled globals before cause
  | blind {settings : Settings} {fault : Fault} (loads : Loads globals before settings)
      (asks : Raises settings ∨ Trusts globals settings before.styler.tier) (unfound : sounded before = .error fault) :
      Unsettled globals before (.fault fault)
  | leveless {settings : Settings} (loads : Loads globals before settings) (colored : globals.noColor = false)
      (separated : globals.level = .list []) (served : Raises settings → ∃ tier, sounded before = .ok tier) :
      Unsettled globals before (.fault (.notTier (.list [])))

theorem loadIn_loads : (∃ after, Returns (Settings.loadIn globals.config) before settings after) ↔ Loads globals before settings := by
  constructor
  · rintro ⟨after, returned⟩
    have told : (loading globals before.world).records.findSome? before.world.refusal? = none := by
      cases listed : (loading globals before.world).records.findSome? before.world.refusal? with
      | none => rfl
      | some fault => exact absurd (loadIn_fails.mpr (Or.inl ⟨fault, listed, rfl⟩)) (returns_unfailing returned)
    exact ⟨told, (loadIn_returns returned).1⟩
  · intro loads
    rcases returns_or_fails (Settings.loadIn globals.config) before with ⟨value, after, returned⟩ | ⟨failure, failed⟩
    · have same := (loadIn_returns returned).1.symm.trans loads.found
      cases same
      exact ⟨after, returned⟩
    · rcases loadIn_fails.mp failed with ⟨fault, listed, _⟩ | ⟨_, failing⟩
      · cases listed.symm.trans loads.told
      · cases failing.symm.trans loads.found

theorem applying_fails (fine : settings.problem? = none) :
    Fails (settings.apply >>= fun _ => overruling globals settings) before failure ↔
      (Raises settings ∧ ∃ fault, sounded before = .error fault ∧ failure = .fault fault) ∨
      (Raises settings → ∃ tier, sounded before = .ok tier) ∧ globals.noColor = false ∧
        (globals.level = .null ∧ settings.pinsTier = false ∧ Fails Styler.level before failure ∨
          globals.level ≠ .null ∧ ∃ fault, Tier.coerce globals.level = .error fault ∧ failure = .fault fault) := by
  rcases returns_or_fails settings.apply before with ⟨_, after, applied⟩ | ⟨cause, failed⟩
  · have served : Raises settings → ∃ tier, sounded before = .ok tier := by
      intro raises
      cases found : sounded before with
      | ok tier => exact ⟨tier, rfl⟩
      | error fault => exact absurd ((apply_fails fine).mpr ⟨raises, fault, found, rfl⟩) (returns_unfailing applied)
    rw [fails_behind applied, overruling_fails, apply_level_fails applied]
    refine ⟨fun failed => Or.inr ⟨served, failed⟩, ?_⟩
    rintro (⟨raises, fault, unfound, _⟩ | ⟨_, failed⟩)
    · obtain ⟨tier, found⟩ := served raises
      cases found.symm.trans unfound
    · exact failed
  · obtain ⟨raises, fault, unfound, _⟩ := (apply_fails fine).mp failed
    have unserved : ¬ ∃ tier, sounded before = .ok tier := by
      rintro ⟨tier, found⟩
      cases found.symm.trans unfound
    rw [fails_bind, apply_fails fine]
    constructor
    · rintro (blind | ⟨_, _, applied, _⟩)
      · exact Or.inl blind
      · exact absurd failed (returns_unfailing applied)
    · rintro (blind | ⟨served, _⟩)
      · exact Or.inl blind
      · exact absurd (served raises) unserved

/-- Settling the settings of an accepted command line fails in these ways and no other. -/
theorem configure_fails {columns : Int} {words : List String} {flags : Parsed}
    (accepted : (Program.preliminary columns).parse words = .ok flags) :
    Fails (Perform.configure (.ofParsed flags)) before failure ↔ Unsettled (.ofParsed flags) before failure := by
  have behind (settings : Settings) (first : Session) (loaded : Returns (Settings.loadIn (Globals.ofParsed flags).config) before settings first) :
      Fails (do
        Setup.restrict (((Globals.ofParsed flags).logLevel.map .text).getD settings.logLevel)
        settings.apply
        overruling (.ofParsed flags) settings) first failure ↔
      Fails (settings.apply >>= fun _ => overruling (.ofParsed flags) settings) before failure := by
    obtain ⟨found, alike⟩ := loadIn_returns loaded
    have fine := load_valid found
    have limited : ∃ second, Returns (Setup.restrict (((Globals.ofParsed flags).logLevel.map .text).getD settings.logLevel)) first () second := by
      cases said : (Globals.ofParsed flags).logLevel with
      | some name => exact SettingsSources.restrict_returns (logLevel_accepted accepted said) first
      | none =>
        obtain ⟨name, same, _, limited⟩ := (SettingsSources.inOrder fine).logLevel
        rw [Option.map_none, Option.getD_none, same]
        exact limited first
    obtain ⟨second, restricting⟩ := limited
    have alike : Alike before second := by
      have later := restrict_alike restricting
      exact ⟨later.styler.trans alike.styler, later.env.trans alike.env, later.onWindows.trans alike.onWindows, later.version.trans alike.version⟩
    rw [fails_behind restricting, applying_fails fine, applying_fails fine]
    simp only [level_fails, alike.sounded, alike.styler]
  rw [configure_eq, fails_bind, loadIn_fails]
  constructor
  · rintro ((⟨fault, listed, rfl⟩ | ⟨told, failed⟩) | ⟨settings, first, loaded, failed⟩)
    · exact .refused listed
    · exact .unloaded told (LoadOutcome.load_fails.mp failed)
    · have loads := loadIn_loads.mp ⟨first, loaded⟩
      rw [behind settings first loaded, applying_fails (load_valid loads.found)] at failed
      rcases failed with ⟨raises, fault, unfound, rfl⟩ | ⟨served, colored, ⟨unsaid, unpinned, failed⟩ | ⟨said, fault, refused, rfl⟩⟩
      · exact .blind loads (Or.inl raises) unfound
      · obtain ⟨unset, fault, unfound, rfl⟩ := level_fails.mp failed
        exact .blind loads (Or.inr ⟨colored, unsaid, unpinned, unset⟩) unfound
      · rcases level_accepted accepted with null | empty | ⟨number, same, _⟩
        · exact absurd null said
        · rw [show (Globals.ofParsed flags).level = .list [] from empty] at refused
          cases refused
          exact .leveless loads colored empty served
        · rw [show (Globals.ofParsed flags).level = .int number from same] at refused
          cases refused
  · intro unsettled
    cases unsettled with
    | refused listed => exact Or.inl (Or.inl ⟨_, listed, rfl⟩)
    | unloaded told failed => exact Or.inl (Or.inr ⟨told, LoadOutcome.load_fails.mpr failed⟩)
    | @blind settings fault loads asks unfound =>
      obtain ⟨first, loaded⟩ := loadIn_loads.mpr loads
      refine Or.inr ⟨settings, first, loaded, ?_⟩
      rw [behind settings first loaded, applying_fails (load_valid loads.found)]
      by_cases raises : Raises settings
      · exact Or.inl ⟨raises, fault, unfound, rfl⟩
      · obtain ⟨colored, unsaid, unpinned, unset⟩ := asks.resolve_left raises
        have failed := level_fails.mpr ⟨unset, fault, unfound, rfl⟩
        exact Or.inr ⟨fun asked => absurd asked raises, colored, Or.inl ⟨unsaid, unpinned, failed⟩⟩
    | @leveless settings loads colored separated served =>
      obtain ⟨first, loaded⟩ := loadIn_loads.mpr loads
      refine Or.inr ⟨settings, first, loaded, ?_⟩
      rw [behind settings first loaded, applying_fails (load_valid loads.found)]
      exact Or.inr ⟨served, colored, Or.inr ⟨by rw [separated]; nofun, _, by rw [separated]; rfl, rfl⟩⟩

end Failures

end TermStyle.Proofs.SettlingOutcome
