import TermStyle.CommandLine.Perform
import TermStyle.Proofs.ConsoleRun
import TermStyle.Proofs.FlagValues
import TermStyle.Proofs.SettingsRun

/-! Which source of the tier wins. The flags of the command line come first, then the settings, then the tier that was
in force before, and detection decides where nothing else does. Coloured formatters follow the styler. -/

namespace TermStyle.Proofs.TierPrecedence
open CommandLine Log ActionRun Logging StylerRun TierReading ConsoleRun SettingsRun FlagValues

def flagged (globals : Globals) : Option Int := if globals.noColor then some 0 else whole? globals.level

/-- The level that the sources come to, the strongest first. -/
def prevailing (globals : Globals) (settings : Settings) (prior : Option Tier) (found : Except Fault Tier) :
    Except Fault Int :=
  match flagged globals, pinned settings found, prior with
  | some level, _, _ => .ok level
  | none, some level, _ => level
  | none, none, some tier => .ok tier.level
  | none, none, none => found.map Tier.level

theorem prevailing_flagged {globals : Globals} {level : Int} (said : flagged globals = some level) (settings : Settings)
    (prior : Option Tier) (found : Except Fault Tier) : prevailing globals settings prior found = .ok level := by
  simp only [prevailing, said]

theorem prevailing_unflagged {globals : Globals} (unsaid : flagged globals = none) (settings : Settings)
    (session : Session) : prevailing globals settings session.styler.tier (sounded session) =
      (pinned settings (sounded session)).getD (reached session) := by
  cases asked : pinned settings (sounded session) with
  | some level => simp [prevailing, unsaid, asked]
  | none =>
    cases prior : session.styler.tier with
    | some tier => simp [prevailing, unsaid, asked, reached, prior]
    | none => simp [prevailing, unsaid, asked, reached, prior]

theorem read_number {choices : List Int} {text : String} {value : Value}
    (read : (Kind.number choices).read text = .ok value) : ∃ number ∈ choices, value = .int number := by
  simp only [Kind.read] at read
  split at read
  · cases read
  next number _ =>
    split at read
    next listed =>
      cases read
      exact ⟨number, by simpa using listed, rfl⟩
    · cases read

theorem level_accepted {columns : Int} {words : List String} {parsed : Parsed}
    (accepted : (Program.preliminary columns).parse words = .ok parsed) :
    parsed.get "level" = .null ∨ parsed.get "level" = .list [] ∨
      ∃ number, parsed.get "level" = .int number ∧ 0 ≤ number ∧ number ≤ 3 := by
  unfold Parsed.get
  cases said : parsed.values.lookup "level" with
  | none => exact Or.inl rfl
  | some value =>
    obtain ⟨front, back, split, _⟩ := List.lookup_eq_some_iff.mp said
    have accounted := parse_accounted accepted ("level", value) (by simp [split])
    generalize named : ("level", value) = entry at accounted
    cases accounted with
    | operand member => cases member
    | menu given => cases given
    | @flag flag found member leaves =>
      obtain ⟨field, rfl⟩ := Prod.mk.inj named
      simp only [Program.globalFlags, List.mem_cons, List.not_mem_nil, or_false] at member
      rcases member with rfl | rfl | rfl | rfl
      · cases leaves with
        | unsaid => exact Or.inl rfl
        | switched effect => cases effect
        | separated => exact Or.inr (Or.inl rfl)
        | read effect read =>
          cases effect
          obtain ⟨number, listed, rfl⟩ := read_number read
          have ranged : 0 ≤ number ∧ number ≤ 3 := by
            simp only [Program.levels, List.mem_cons, List.not_mem_nil, or_false] at listed
            omega
          exact Or.inr (Or.inr ⟨number, rfl, ranged⟩)
      · simp at field
      · simp at field
      · simp at field

def Painted (tier : Whole) (handlers : List Handler) : Prop :=
  ∀ handler ∈ handlers, handler.formatter.isColored = true → handler.formatter.tier? = some tier

theorem setTier_painted (tier : Whole) (setup : Setup) : Painted tier (setup.setTier tier).handlers := by
  intro handler member colored
  obtain ⟨before, _, rfl⟩ := List.mem_map.mp member
  cases formatter : before.formatter with
  | plain format => simp [formatter, Formatter.withTier, Formatter.isColored] at colored
  | colored format known => rfl

theorem uncolored_painted {setup : Setup} (uncolored : setup.isColored = false) (tier : Whole) :
    Painted tier setup.handlers := by
  intro handler member colored
  have isColored := List.any_eq_false.mp uncolored handler member
  exact absurd colored isColored

theorem Painted.settled {tier : Whole} {before after : List Handler} (settled : AllSettle before after)
    (painted : Painted tier before) : Painted tier after := by
  induction settled with
  | nil => exact painted
  | @cons handler left handlers lefts settles rest ih =>
    intro candidate member colored
    rcases List.mem_cons.mp member with rfl | later
    · have own := painted handler (by simp)
      rcases settles.formatter with same | ⟨format, found, open_, same⟩
      · rw [same] at colored ⊢
        exact own colored
      · rw [open_] at own
        cases own rfl
    · exact ih (fun other listed => painted other (by simp [listed])) candidate later colored

theorem paint_run (number : Int) (session : Session) :
    ∃ after, outcome (Setup.paint (.int number)) session = (.ok (), after) ∧ after.styler = session.styler ∧
      Painted (.ofInt number) after.world.log.handlers := by
  have tier : Setup.tierOf (.int number) = .ok (.ofInt number) := rfl
  simp only [Setup.paint, outcome_bind, outcome_world, andThen_ok]
  cases colored : session.world.log.isColored with
  | true =>
    simp only [if_true, outcome_bind, outcome_lift, tier, ExceptSteps.mapError_ok, andThen_ok, Setup.change, outcome_inWorld]
    exact ⟨_, rfl, rfl, setTier_painted _ _⟩
  | false =>
    exact ⟨session, rfl, rfl, uncolored_painted colored _⟩

theorem enableConsole_aside {session : Session} {tier : Tier} (inForce : session.styler.tier = some tier) :
    Aside session (outcome Perform.enableConsole session).2 := by
  have enabling (needed : Bool) : Leads Aside (do
      if needed then
        let report ← Platform.Console.enable true none
        Action.note [.debug logger
          ("Console VT processing enabled=" ++ Value.boolLiteral report.enabled ++ " via " ++ report.method.name)]) := by
    cases needed with
    | false => exact leads_pure _
    | true => exact leads_bind (enable_aside true none) fun _ => note_aside _
  simp only [Perform.enableConsole, outcome_bind, outcome_world, andThen_ok, level_kept inForce]
  exact enabling _ session

/-- The end of the configuration: the tier is read, and everything else goes by it. -/
def following (settings : Settings) : Action Settings := do
  Setup.paint (.int (← Styler.level).level)
  Perform.enableConsole
  return settings

theorem following_returns {settings found : Settings} {before after : Session}
    (returned : Returns (following settings) before found after) :
    found = settings ∧ ∃ tier, reached before = .ok tier.level ∧ after.styler.tier = some tier ∧
      Painted (.ofInt tier.level) after.world.log.handlers := by
  obtain ⟨tier, read, level, returned⟩ := returns_bind.mp returned
  obtain ⟨_, shown, painting, returned⟩ := returns_bind.mp returned
  obtain ⟨_, last, enabling, ending⟩ := returns_bind.mp returned
  obtain ⟨rfl, rfl⟩ := returns_pure.mp ending
  obtain ⟨painted, run, styler, paint⟩ := paint_run tier.level read
  rw [painting] at run
  cases run
  have inForce : shown.styler.tier = some tier := by
    rw [styler]
    exact (level_settles level).1
  have aside := enableConsole_aside inForce
  rw [enabling] at aside
  refine ⟨rfl, tier, level_reached level, ?_, paint.settled aside.handlers⟩
  rw [aside.styler]
  exact inForce

theorem sounded_environment {session : Session} (environment : session.styler.detector = .environment) :
    sounded session = detected session.world := by
  unfold sounded answer detected
  rw [environment]
  dsimp only
  cases (Detection.detect session.world.env session.world.platform.onWindows session.world.platform.version).value with
  | error fault => rfl
  | ok tier => exact coerce_level tier

theorem restrict_alike {level : Value} {before after : Session} (returned : Returns (Setup.restrict level) before () after) :
    Alike before after := by
  obtain ⟨number, middle, read, changed⟩ := returns_bind.mp returned
  obtain ⟨_, rfl⟩ := returns_lift.mp read
  cases changed
  exact ⟨rfl, rfl, rfl, rfl⟩

/-- Settings that were settled are the ones that load, and the tier is that of the strongest source. -/
theorem configured_prevailing {columns : Int} {words : List String} {parsed : Parsed} {before after : Session}
    {settings : Settings} (accepted : (Program.preliminary columns).parse words = .ok parsed)
    (configured : Returns (Perform.configure (.ofParsed parsed)) before settings after) :
    (Settings.load before.world.store before.world.env (Globals.ofParsed parsed).config).value = .ok settings ∧
    ∃ tier, after.styler.tier = some tier ∧
      prevailing (.ofParsed parsed) settings before.styler.tier (sounded before) = .ok tier.level ∧
      Painted (.ofInt tier.level) after.world.log.handlers := by
  obtain ⟨loaded, first, loading, configured⟩ := returns_bind.mp configured
  obtain ⟨_, second, restricting, configured⟩ := returns_bind.mp configured
  obtain ⟨_, third, applying, configured⟩ := returns_bind.mp configured
  obtain ⟨found, firstAlike⟩ := loadIn_returns loading
  have secondAlike := restrict_alike restricting
  have fine := load_valid found
  have applied := apply_reached fine applying
  rw [secondAlike.sounded, firstAlike.sounded, secondAlike.reached, firstAlike.reached] at applied
  suffices overruled : ∃ fourth, Returns (following loaded) fourth settings after ∧
      prevailing (.ofParsed parsed) loaded before.styler.tier (sounded before) = reached fourth by
    obtain ⟨fourth, followed, level⟩ := overruled
    obtain ⟨rfl, tier, same, inForce, painted⟩ := following_returns followed
    exact ⟨found, tier, inForce, level.trans same, painted⟩
  dsimp only at configured
  split at configured
  next noColor =>
    obtain ⟨_, fourth, overruling, followed⟩ := returns_bind.mp configured
    obtain ⟨_, ⟨⟩, rfl⟩ := setLevel_returns.mp overruling
    have said : flagged (.ofParsed parsed) = some 0 := if_pos noColor
    exact ⟨_, followed, prevailing_flagged said _ _ _⟩
  next noFlag =>
    have flag : flagged (.ofParsed parsed) = whole? (parsed.get "level") := if_neg noFlag
    split at configured
    next null =>
      have unsaid : flagged (.ofParsed parsed) = none := by
        rw [flag, show parsed.get "level" = .null from null]
        rfl
      exact ⟨third, configured, (prevailing_unflagged unsaid loaded before).trans applied.symm⟩
    next _ notNull =>
      obtain ⟨_, fourth, overruling, followed⟩ := returns_bind.mp configured
      obtain ⟨tier, coerced, rfl⟩ := setLevel_returns.mp overruling
      rcases level_accepted accepted with null | empty | ⟨number, same, least, greatest⟩
      · exact absurd null notNull
      · rw [show (Globals.ofParsed parsed).level = .list [] from empty] at coerced
        cases coerced
      · rw [show (Globals.ofParsed parsed).level = .int number from same] at coerced
        cases coerced
        have said : flagged (.ofParsed parsed) = some number := by
          rw [flag, same]
          rfl
        refine ⟨_, followed, (prevailing_flagged said _ _ _).trans ?_⟩
        rw [reached_settled, clamp_inRange least greatest]

/-- Configuring that ends well ends with the tier of the strongest source, for the styler and all that is coloured. -/
theorem configured_tier_prevails {columns : Int} {words : List String} {parsed : Parsed} {before after : Session}
    {settings : Settings} (accepted : (Program.preliminary columns).parse words = .ok parsed)
    (environment : before.styler.detector = .environment)
    (configured : Returns (Perform.configure (.ofParsed parsed)) before settings after) :
    (Settings.load before.world.store before.world.env (Globals.ofParsed parsed).config).value = .ok settings ∧
    ∃ tier, after.styler.tier = some tier ∧
      prevailing (.ofParsed parsed) settings before.styler.tier (detected before.world) = .ok tier.level ∧
      Painted (.ofInt tier.level) after.world.log.handlers := by
  rw [← sounded_environment environment]
  exact configured_prevailing accepted configured

/-- An earlier tier of three, an environment that allows no colours, and settings that want them all the same. -/
def insisting : Session :=
  let plain := plainSession .truecolor
  { plain with world := { plain.world with
    env := ⟨[("HUECODE_COLOR", "always"), ("NO_COLOR", "1")]⟩
    log := { plain.world.log with handlers := [⟨Level.warning, .colored Formatter.messageOnly none, .console⟩] } } }

def insistingParsed : Parsed where
  path := []
  values := [("log_level", .text "ERROR"), ("level", .null), ("no_color", .bool false), ("config", .null),
    ("log_level", .null)]
  extras := []

private theorem insisting_accepted : (Program.preliminary 80).parse ["--log-level", "error"] = .ok insistingParsed := by
  have dashed : "--log-level".startsWith "-" = true := by decide +kernel
  have bare : "error".startsWith "-" = false := by decide +kernel
  obtain ⟨flag, last, words⟩ : ∃ flag, Program.globalFlags.getLast? = some flag ∧
      Word.ofTexts Program.globalFlags ["--log-level", "error"] =
        .ok [⟨"--log-level", .flag flag "--log-level" none⟩, ⟨"error", .argument⟩] := by
    refine ⟨_, rfl, ?_⟩
    simp only [Word.ofTexts, Word.roleOf, dashed, bare]
    rfl
  cases last
  simp only [Program.preliminary, CommandLine.Tree.parse, CommandLine.Tree.read, Reading.ofTexts, words]
  rfl

theorem configured_tier_prevails_insisting :
    (Program.preliminary 80).parse ["--log-level", "error"] = .ok insistingParsed ∧
    insisting.styler.detector = .environment ∧
    ∃ after, Returns (Perform.configure (.ofParsed insistingParsed)) insisting ⟨.text "always", .null, .text "WARNING"⟩ after ∧
      after.styler.tier = some .basic ∧ Painted (.ofInt 1) after.world.log.handlers := by
  have environment : insisting.styler.detector = .environment := rfl
  obtain ⟨after, configured⟩ : ∃ after, Returns (Perform.configure (.ofParsed insistingParsed)) insisting
    ⟨.text "always", .null, .text "WARNING"⟩ after := ⟨_, rfl⟩
  obtain ⟨_, tier, inForce, level, painted⟩ := configured_tier_prevails insisting_accepted environment configured
  have least : prevailing (.ofParsed insistingParsed) ⟨.text "always", .null, .text "WARNING"⟩ insisting.styler.tier
    (detected insisting.world) = .ok 1 := rfl
  rw [least] at level
  obtain rfl : tier = .basic := by
    cases tier with
    | basic => rfl
    | none | extended | truecolor => cases level
  exact ⟨insisting_accepted, environment, after, configured, inForce, painted⟩

end TermStyle.Proofs.TierPrecedence
