import TermStyle.Proofs.ExceptSteps
import TermStyle.Proofs.StylerRun
import TermStyle.Proofs.TierReading
import TermStyle.Settings.Apply

/-! What settings do to a styler. Settings that were loaded are in order; those that ask for a tier put it in force in
place of whatever was, and the detector is asked afresh where it matters. -/

namespace TermStyle.Proofs.SettingsRun
open Log ActionRun Logging StylerRun TierReading ExceptSteps

def whole? : Value → Option Int
  | .int number => some number
  | _ => none

theorem validate_ok {settings valid : Settings} (accepted : settings.validate = .ok valid) :
    valid = settings ∧ settings.problem? = none := by
  unfold Settings.validate at accepted
  split at accepted
  next fine =>
    cases accepted
    exact ⟨rfl, fine⟩
  · split at accepted
    · cases accepted
    · cases accepted

theorem load_valid {store : Store} {env : Environment} {path : Option String} {settings : Settings}
    (loaded : (Settings.load store env path).value = .ok settings) : settings.problem? = none := by
  obtain ⟨found, _, laying⟩ := bind_ok_iff.mp loaded
  obtain ⟨laid, _, validated⟩ := bind_ok_iff.mp laying
  obtain ⟨rfl, fine⟩ := validate_ok validated
  exact fine

theorem problem?_none_iff {settings : Settings} : settings.problem? = none ↔
    Settings.isMode settings.colorMode = true ∧ Settings.isLevel settings.level = true ∧
      Settings.isLogLevel settings.logLevel = true := by
  cases mode : Settings.isMode settings.colorMode with
  | false => simp [Settings.problem?, mode]
  | true =>
    cases level : Settings.isLevel settings.level with
    | false => simp [Settings.problem?, mode, level]
    | true => simp [Settings.problem?, mode, level]

theorem mode_cases {settings : Settings} (fine : settings.problem? = none) :
    settings.colorMode = .text Settings.automatic ∨ settings.colorMode = .text Settings.always ∨
      settings.colorMode = .text Settings.never := by
  have listed := (problem?_none_iff.mp fine).1
  unfold Settings.isMode at listed
  split at listed
  next mode same => simpa [Settings.colorModes, same] using listed
  · cases listed

theorem level_cases {settings : Settings} (fine : settings.problem? = none) :
    settings.level = .null ∨ ∃ number, settings.level = .int number ∧ 0 ≤ number ∧ number ≤ 3 := by
  have ranged := (problem?_none_iff.mp fine).2.1
  unfold Settings.isLevel at ranged
  split at ranged
  next same => exact Or.inl same
  next number same =>
    simp only [Bool.and_eq_true, decide_eq_true_eq] at ranged
    exact Or.inr ⟨number, same, ranged⟩
  · cases ranged

/-- The level that settings ask for, given what the detector finds. -/
def pinned (settings : Settings) (found : Except Fault Tier) : Option (Except Fault Int) :=
  match whole? settings.level with
  | some level => some (.ok level)
  | none =>
    if settings.hasMode Settings.never then some (.ok 0)
    else if settings.hasMode Settings.always then some (found.map fun tier => max 1 tier.level)
    else none

theorem loadIn_returns {path : Option String} {before after : Session} {settings : Settings}
    (returned : Returns (Settings.loadIn path) before settings after) :
    (Settings.load before.world.store before.world.env path).value = .ok settings ∧ Alike before after := by
  obtain ⟨world, start, read, noting⟩ := returns_bind.mp returned
  cases read
  obtain ⟨_, middle, noted, given⟩ := returns_bind.mp noting
  obtain ⟨styler, logged⟩ := note_logged (Settings.load before.world.store before.world.env path).records before
  rw [noted] at styler logged
  rw [Returns, outcome_ofExcept] at given
  obtain ⟨loaded, rfl⟩ := Prod.mk.inj given
  exact ⟨loaded, Alike.ofLogged styler logged⟩

theorem max_level (tier : Tier) : (tier.max .basic).level = max 1 tier.level := by
  cases tier <;> rfl

theorem resolve_returns {settings : Settings} {before after : Session} {tier : Tier} :
    Returns (settings.resolve do return .int (← Styler.level).level) before tier after ↔
      if settings.hasLevel then Tier.coerce settings.level = .ok tier ∧ after = before
      else if settings.hasMode Settings.never then tier = .none ∧ after = before
      else ∃ found, Returns Styler.level before found after ∧
        tier = if settings.hasMode Settings.always then found.max .basic else found := by
  unfold Settings.resolve
  split
  · exact returns_lift
  · split
    · exact returns_pure
    · constructor
      · intro resolved
        obtain ⟨value, middle, read, resolved⟩ := returns_bind.mp resolved
        obtain ⟨found, level, rfl⟩ := returns_map.mp read
        obtain ⟨same, last, coerced, chosen⟩ := returns_bind.mp resolved
        rw [coerce_level, returns_lift] at coerced
        obtain ⟨⟨⟩, rfl⟩ := coerced
        obtain ⟨rfl, rfl⟩ := returns_pure.mp chosen
        exact ⟨found, level, rfl⟩
      · rintro ⟨found, level, rfl⟩
        refine returns_bind.mpr ⟨_, _, returns_map.mpr ⟨found, level, rfl⟩, ?_⟩
        refine returns_bind.mpr ⟨found, after, returns_lift.mpr ⟨coerce_level found, rfl⟩, ?_⟩
        exact returns_pure.mpr ⟨rfl, rfl⟩

/-- Settings that ask for a tier resolve to the one they ask for, if nothing is in force. -/
theorem resolve_pinned {settings : Settings} (fine : settings.problem? = none) (pins : settings.pinsTier = true)
    {before after : Session} (unset : before.styler.tier = none) {tier : Tier}
    (resolved : Returns (settings.resolve do return .int (← Styler.level).level) before tier after) :
    pinned settings (sounded before) = some (.ok tier.level) := by
  rw [resolve_returns] at resolved
  rcases level_cases fine with null | ⟨number, same, least, greatest⟩
  · have unsaid : settings.hasLevel = false := by simp [Settings.hasLevel, null]
    rcases mode_cases fine with automatic | always | never
    · simp [Settings.pinsTier, unsaid, Settings.hasMode, automatic] at pins
    · simp only [unsaid, Settings.hasMode, always] at resolved
      obtain ⟨found, level, rfl⟩ := resolved
      rcases level_returns.mp level with ⟨inForce, _⟩ | ⟨_, sought, _⟩
      · rw [unset] at inForce
        cases inForce
      · have notNever : (Settings.always == Settings.never) = false := by decide
        simp [pinned, null, whole?, Settings.hasMode, always, notNever, sought, Except.map, max_level]
    · simp only [unsaid, Settings.hasMode, never] at resolved
      obtain ⟨rfl, _⟩ := resolved
      simp [pinned, null, whole?, Settings.hasMode, never, Tier.level]
  · have said : settings.hasLevel = true := by simp [Settings.hasLevel, same]
    rw [if_pos said, same] at resolved
    obtain ⟨⟨⟩, _⟩ := resolved
    simp [pinned, same, whole?, clamp_inRange least greatest]

theorem trusting_unpinned {settings : Settings} (trusting : settings.pinsTier = false) (found : Except Fault Tier) :
    pinned settings found = none := by
  rw [Settings.pinsTier, Bool.or_eq_false_iff, Bool.not_eq_false'] at trusting
  obtain ⟨unsaid, automatic⟩ := trusting
  have level : whole? settings.level = none := by
    unfold Settings.hasLevel at unsaid
    split at unsaid
    next null =>
      rw [null]
      rfl
    · cases unsaid
  unfold Settings.hasMode at automatic
  split at automatic
  next mode same =>
    obtain rfl := eq_of_beq automatic
    have notNever : (Settings.automatic == Settings.never) = false := by decide
    have notAlways : (Settings.automatic == Settings.always) = false := by decide
    simp [pinned, level, Settings.hasMode, same, notNever, notAlways]
  · cases automatic

theorem apply_reached {settings : Settings} (fine : settings.problem? = none) {before after : Session}
    (applied : Returns settings.apply before () after) :
    reached after = (pinned settings (sounded before)).getD (reached before) := by
  unfold Settings.apply at applied
  split at applied
  next trusting =>
    obtain ⟨_, rfl⟩ := returns_pure.mp applied
    rw [trusting_unpinned (by simpa using trusting), Option.getD_none]
  next pins =>
    obtain ⟨_, start, reset, applied⟩ := returns_bind.mp applied
    cases reset
    obtain ⟨tier, middle, resolved, applied⟩ := returns_bind.mp applied
    obtain ⟨_, last, set, noted⟩ := returns_bind.mp applied
    obtain ⟨other, coerced, rfl⟩ := setLevel_returns.mp set
    rw [coerce_level] at coerced
    cases coerced
    have inForce : after.styler.tier = some tier := by
      obtain ⟨styler, _⟩ := note_logged [.debug Settings.logger s!"Support tier set from configuration: {tier.level}"] (settled tier middle)
      rw [noted] at styler
      rw [styler]
      rfl
    have asked : pinned settings (sounded (unset before)) = some (.ok tier.level) := resolve_pinned fine (by simpa using pins) rfl resolved
    have same : sounded (unset before) = sounded before := rfl
    rw [reached_inForce inForce, ← same, asked]
    rfl

end TermStyle.Proofs.SettingsRun
