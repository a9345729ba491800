import TermStyle.Proofs.SettlingOutcome

/-! Settings that pin a tier. Those that leave it to detection do nothing to a styler. All others put their tier in place of
whatever was in force, and ask the detector once if they want the tier raised from what it finds. -/

namespace TermStyle.Proofs.PinnedTier
open Log ActionRun Logging StylerRun TierReading ExceptSteps SettingsRun SettlingOutcome

def Trusting (settings : Settings) : Prop := settings.level = .null ∧ settings.colorMode = .text Settings.automatic

/-- The settings want a tier that is raised from the detected one. -/
def Raising (settings : Settings) : Prop := settings.level = .null ∧ settings.colorMode = .text Settings.always

/-- The level that settings ask for, given the answer of the detector. -/
inductive Demands (settings : Settings) (answer : Except Fault Value) : Int → Prop
  | leveled {level : Int} (said : settings.level = .int level) : Demands settings answer level
  | never (unsaid : settings.level = .null) (mode : settings.colorMode = .text Settings.never) : Demands settings answer 0
  | always {value : Value} {number : Int} (raising : Raising settings) (answered : answer = .ok value)
      (read : integer? value = some number) : Demands settings answer (max 1 (clamped number))

/-- How settings that were checked can stand to a tier. -/
inductive Stance (settings : Settings) : Prop
  | trusting (trusting : Trusting settings)
  | leveled {level : Int} (said : settings.level = .int level) (least : 0 ≤ level) (greatest : level ≤ 3)
  | never (unsaid : settings.level = .null) (mode : settings.colorMode = .text Settings.never)
  | always (raising : Raising settings)

section Stances

variable {settings : Settings} {mode : String}

theorem stance (fine : settings.problem? = none) : Stance settings := by
  rcases level_cases fine with unsaid | ⟨level, said, least, greatest⟩
  · rcases mode_cases fine with mode | mode | mode
    · exact .trusting ⟨unsaid, mode⟩
    · exact .always ⟨unsaid, mode⟩
    · exact .never unsaid mode
  · exact .leveled said least greatest

theorem hasLevel_unsaid : settings.hasLevel = false ↔ settings.level = .null := by
  unfold Settings.hasLevel
  cases settings.level <;> simp

theorem hasLevel_said {level : Int} (said : settings.level = .int level) : settings.hasLevel = true := by
  rw [Settings.hasLevel, said]

theorem hasMode_iff : settings.hasMode mode = true ↔ settings.colorMode = .text mode := by
  unfold Settings.hasMode
  cases settings.colorMode <;> simp

theorem trusting_iff : settings.pinsTier = false ↔ Trusting settings := by
  rw [Settings.pinsTier, Bool.or_eq_false_iff, Bool.not_eq_false', hasLevel_unsaid, hasMode_iff, Trusting]

theorem raises_iff : Raises settings ↔ Raising settings := by rw [Raises, hasLevel_unsaid, hasMode_iff, Raising]

theorem Trusting.unraised (trusting : Trusting settings) : ¬ Raising settings := by
  intro raising
  exact absurd (Value.text.inj (trusting.2.symm.trans raising.2)) (by decide)

end Stances

instance (settings : Settings) : Decidable (Raises settings) := inferInstanceAs (Decidable (_ ∧ _))

/-- The session once the detector was asked, if the settings ask it. -/
def consulted (settings : Settings) (session : Session) : Session := if Raises settings then asked session else session

/-- The tier of settings that pin one. -/
def demanded (settings : Settings) (session : Session) : Except Fault Tier :=
  if settings.hasLevel then Tier.coerce settings.level
  else if settings.hasMode Settings.never then .ok .none
  else (sounded session).map (·.max .basic)

def pinning (settings : Settings) (tier : Tier) (session : Session) : Session :=
  emitted [.debug Settings.logger s!"Support tier set from configuration: {tier.level}"]
    (settled tier (consulted settings (unset session)))

section Asking

variable {settings : Settings} {session : Session} {tier : Tier} {level : Int}

theorem consulted_unraised (unraised : ¬ Raising settings) (session : Session) : consulted settings session = session :=
  if_neg (raises_iff.not.mpr unraised)

theorem consulted_raised (raising : Raising settings) (session : Session) : consulted settings session = asked session :=
  if_pos (raises_iff.mpr raising)

theorem sounded_iff : sounded session = .ok tier ↔
    ∃ value number, (answer session).value = .ok value ∧ integer? value = some number ∧ tier = .clamp number := by
  unfold sounded
  cases (answer session).value with
  | error fault => exact iff_of_false nofun (by simp)
  | ok value =>
    change Tier.coerce value = .ok tier ↔ _
    cases read : integer? value with
    | some number => simp [coerce_integer read, read, eq_comm]
    | none =>
      obtain ⟨fault, refused, _⟩ := coerce_refused read
      simp [refused, read]

theorem demanded_leveled (said : settings.level = .int level) (session : Session) :
    demanded settings session = .ok (.clamp level) := by
  rw [demanded, if_pos (hasLevel_said said), said]
  rfl

theorem demanded_never (unsaid : settings.level = .null) (mode : settings.colorMode = .text Settings.never) (session : Session) :
    demanded settings session = .ok .none := by
  simp [demanded, hasLevel_unsaid.mpr unsaid, hasMode_iff.mpr mode]

theorem unnever (raising : Raising settings) : settings.hasMode Settings.never = false := by
  rw [Settings.hasMode, raising.2]
  decide

theorem demanded_raised (raising : Raising settings) (session : Session) :
    demanded settings session = (sounded session).map (·.max .basic) := by
  simp [demanded, hasLevel_unsaid.mpr raising.1, unnever raising]

theorem demanded_iff (fine : settings.problem? = none) (pins : ¬ Trusting settings) :
    (∃ tier, demanded settings session = .ok tier ∧ tier.level = level) ↔ Demands settings (answer session).value level := by
  constructor
  · rintro ⟨tier, demands, rfl⟩
    cases stance fine with
    | trusting trusting => exact absurd trusting pins
    | leveled said least greatest =>
      cases (demanded_leveled said session).symm.trans demands
      rw [clamp_inRange least greatest]
      exact .leveled said
    | never unsaid mode =>
      cases (demanded_never unsaid mode session).symm.trans demands
      exact .never unsaid mode
    | always raising =>
      rw [demanded_raised raising, map_ok_iff] at demands
      obtain ⟨found, sought, rfl⟩ := demands
      obtain ⟨value, number, answered, read, rfl⟩ := sounded_iff.mp sought
      rw [max_level, clamp_level]
      exact .always raising answered read
  · intro demands
    cases demands with
    | leveled said =>
      rcases level_cases fine with unsaid | ⟨_, same, least, greatest⟩
      · cases said.symm.trans unsaid
      · cases said.symm.trans same
        exact ⟨_, demanded_leveled said _, clamp_inRange least greatest⟩
    | never unsaid mode => exact ⟨_, demanded_never unsaid mode _, rfl⟩
    | always raising answered read =>
      have sought := sounded_iff.mpr ⟨_, _, answered, read, rfl⟩
      refine ⟨_, (demanded_raised raising _).trans (map_ok_iff.mpr ⟨_, sought, rfl⟩), ?_⟩
      rw [max_level, clamp_level]

theorem demanded_alike (fine : settings.problem? = none) (pins : ¬ Trusting settings) {other : Session}
    (alike : Raising settings → (answer other).value = (answer session).value) :
    demanded settings other = demanded settings session := by
  cases stance fine with
  | trusting trusting => exact absurd trusting pins
  | leveled said => rw [demanded_leveled said, demanded_leveled said]
  | never unsaid mode => rw [demanded_never unsaid mode, demanded_never unsaid mode]
  | always raising => rw [demanded_raised raising, demanded_raised raising, sounded, alike raising, sounded]

end Asking

section Applying

variable {settings : Settings} {before after : Session} {tier : Tier}

theorem apply_trusting (trusting : Trusting settings) (before : Session) : outcome settings.apply before = (.ok (), before) := by
  rw [Settings.apply, trusting_iff.mpr trusting]
  rfl

/-- What is left to do once the tier is known. -/
def pin (tier : Tier) : Action Unit := do
  Styler.setLevel (.int tier.level)
  Action.note [.debug Settings.logger s!"Support tier set from configuration: {tier.level}"]

theorem pin_run (tier : Tier) (session : Session) : outcome (pin tier) session =
    (.ok (), emitted [.debug Settings.logger s!"Support tier set from configuration: {tier.level}"] (settled tier session)) := by
  rw [pin, outcome_bind, setLevel_ok (coerce_level tier), andThen_ok, note_single rfl]

theorem apply_pins (pins : ¬ Trusting settings) (before : Session) : outcome settings.apply before =
    outcome (settings.resolve (do return .int (← Styler.level).level) >>= pin) (unset before) := by
  rw [← trusting_iff, Bool.not_eq_false] at pins
  rw [Settings.apply, pins]
  rfl

/-- The styler is reset first, so that reading its tier asks the detector, and nothing depends on what was in force. -/
theorem apply_run (fine : settings.problem? = none) (pins : ¬ Trusting settings) (before : Session) :
    outcome settings.apply before = match demanded settings before with
      | .ok tier => (.ok (), pinning settings tier before)
      | .error fault => (.error (.fault fault), consulted settings (unset before)) := by
  rw [apply_pins pins, outcome_bind, Settings.resolve]
  cases stance fine with
  | trusting trusting => exact absurd trusting pins
  | leveled said =>
    have unraised : ¬ Raising settings := fun raising => by cases said.symm.trans raising.1
    rw [if_pos (hasLevel_said said), said, outcome_lift, demanded_leveled said]
    dsimp only
    rw [pinning, consulted_unraised unraised]
    exact pin_run _ _
  | never unsaid mode =>
    have named : settings.hasMode Settings.never = true := hasMode_iff.mpr mode
    have unraised : ¬ Raising settings := fun raising => by simp [unnever raising] at named
    rw [if_neg (by simp [hasLevel_unsaid.mpr unsaid]), if_pos named, demanded_never unsaid mode]
    dsimp only
    rw [pinning, consulted_unraised unraised]
    exact pin_run _ _
  | always raising =>
    have unsettled : (unset before).styler.tier = none := rfl
    have same : sounded (unset before) = sounded before := rfl
    have always : settings.hasMode Settings.always = true := hasMode_iff.mpr raising.2
    rw [if_neg (by simp [hasLevel_unsaid.mpr raising.1]), if_neg (by simp [unnever raising]), demanded_raised raising]
    cases found : sounded before with
    | error fault => simp [level_unsounded unsettled (same.trans found), Except.map, consulted_raised raising]
    | ok tier =>
      simp only [outcome_bind, level_sounded unsettled (same.trans found), andThen_ok, outcome_pure, coerce_level, outcome_lift,
        mapError_ok, always, if_true, pin_run, Except.map, pinning, consulted_raised raising]
      rfl

theorem apply_returns (fine : settings.problem? = none) (pins : ¬ Trusting settings) :
    Returns settings.apply before () after ↔ ∃ tier, demanded settings before = .ok tier ∧ after = pinning settings tier before := by
  rw [Returns, apply_run fine pins]
  cases demanded settings before with
  | error fault => simp
  | ok tier => simp [eq_comm]

/-- What was done by the time the settings are applied or have failed to be. -/
structure Touched (settings : Settings) (before after : Session) : Prop where
  detector : after.styler.detector = before.styler.detector
  asked : Raising settings → after.styler.detections = before.styler.detections + 1
  unasked : ¬ Raising settings → after.styler.detections = before.styler.detections
  logged : Logged before.world after.world

theorem consulted_touched (settings : Settings) (before : Session) : Touched settings before (consulted settings (unset before)) := by
  by_cases raising : Raising settings
  · rw [consulted_raised raising]
    exact ⟨rfl, fun _ => rfl, absurd raising, emitted_logged _ (counted (unset before))⟩
  · rw [consulted_unraised raising]
    exact ⟨rfl, fun raises => absurd raises raising, fun _ => rfl, Logged.refl _⟩

theorem pinning_touched (settings : Settings) (tier : Tier) (before : Session) :
    Touched settings before (pinning settings tier before) := by
  obtain ⟨detector, asked, unasked, logged⟩ := consulted_touched settings before
  exact ⟨detector, asked, unasked, logged.trans (emitted_logged _ (settled tier (consulted settings (unset before))))⟩

theorem apply_touched (fine : settings.problem? = none) (before : Session) :
    Touched settings before (outcome settings.apply before).2 := by
  by_cases trusting : Trusting settings
  · rw [apply_trusting trusting]
    exact ⟨rfl, fun raising => absurd raising trusting.unraised, fun _ => rfl, Logged.refl _⟩
  · rw [apply_run fine trusting]
    cases demanded settings before with
    | error fault => exact consulted_touched settings before
    | ok tier => exact pinning_touched settings tier before

/-- Settings that pin a tier put it in force, whatever was before; the others change nothing. The detector is asked only where it
matters, and once. Applying the settings again, with the same answer, leaves the tier as it is. -/
theorem settings_pin_tier (fine : settings.problem? = none) (before : Session) :
    (Trusting settings → outcome settings.apply before = (.ok (), before)) ∧
    (¬ Trusting settings →
      (∀ prior, outcome settings.apply { before with styler := { before.styler with tier := prior } } = outcome settings.apply before) ∧
      ((∃ after, Returns settings.apply before () after) ↔ ∃ level, Demands settings (answer before).value level) ∧
      ∀ after, Returns settings.apply before () after →
        ∃ level, Demands settings (answer before).value level ∧ after.styler.tier.map Tier.level = some level) ∧
    Touched settings before (outcome settings.apply before).2 ∧
    ∀ after, Returns settings.apply before () after → (Raising settings → (answer after).value = (answer before).value) →
      ∃ last, Returns settings.apply after () last ∧ last.styler.tier = after.styler.tier ∧ Touched settings after last := by
  refine ⟨fun trusting => apply_trusting trusting before, fun pins => ⟨fun prior => ?_, ?_, fun after applied => ?_⟩,
    apply_touched fine before, fun after applied alike => ?_⟩
  · rw [apply_pins pins, apply_pins pins]
    rfl
  · simp only [apply_returns fine pins, ← demanded_iff fine pins]
    constructor
    · rintro ⟨_, tier, demands, _⟩
      exact ⟨_, tier, demands, rfl⟩
    · rintro ⟨_, tier, demands, _⟩
      exact ⟨_, tier, demands, rfl⟩
  · obtain ⟨tier, demands, rfl⟩ := (apply_returns fine pins).mp applied
    exact ⟨tier.level, (demanded_iff fine pins).mp ⟨tier, demands, rfl⟩, rfl⟩
  · by_cases trusting : Trusting settings
    · have kept := apply_trusting trusting after
      refine ⟨after, kept, rfl, ?_⟩
      have touched := apply_touched fine after
      rwa [kept] at touched
    · obtain ⟨tier, demands, rfl⟩ := (apply_returns fine trusting).mp applied
      have again := (demanded_alike fine trusting alike).trans demands
      exact ⟨_, (apply_returns fine trusting).mpr ⟨tier, again, rfl⟩, rfl, pinning_touched settings tier _⟩

end Applying

def eager : Settings := ⟨.text Settings.always, .null, .text "WARNING"⟩

/-- A styler with a forced tier, whose detector finds less than none. -/
def overruled : Session := { plainSession .truecolor with styler := ⟨.script fun _ => .int (-4), some .truecolor, 0⟩ }

theorem settings_pin_tier_eager : eager.problem? = none ∧ ¬ Trusting eager ∧ Raising eager ∧
    ∃ after, Returns eager.apply overruled () after ∧ after.styler.tier.map Tier.level = some 1 ∧ after.styler.detections = 1 ∧
      ∃ last, Returns eager.apply after () last ∧ last.styler.tier = after.styler.tier ∧ last.styler.detections = 2 := by
  have fine : eager.problem? = none := rfl
  have raising : Raising eager := ⟨rfl, rfl⟩
  have pins : ¬ Trusting eager := fun trusting => trusting.unraised raising
  obtain ⟨_, pinned, touched, again⟩ := settings_pin_tier fine overruled
  obtain ⟨_, returns, levels⟩ := pinned pins
  obtain ⟨after, applied⟩ := returns.mpr ⟨_, .always raising rfl rfl⟩
  obtain ⟨level, demands, inForce⟩ := levels after applied
  rw [applied] at touched
  have answered : (answer after).value = (answer overruled).value := by
    unfold answer
    rw [touched.detector]
    rfl
  obtain ⟨last, reapplied, same, retouched⟩ := again after applied fun _ => answered
  have least : level = 1 := by
    cases demands with
    | leveled said => cases said
    | never _ mode => exact absurd (Value.text.inj mode) (by decide)
    | always _ given read =>
      cases given
      cases read
      rfl
  have once : after.styler.detections = 1 := touched.asked raising
  exact ⟨fine, pins, raising, after, applied, least ▸ inForce, once, last, reapplied, same, by rw [retouched.asked raising, once]⟩

end TermStyle.Proofs.PinnedTier
