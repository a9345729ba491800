import TermStyle.Proofs.SavedFile
import TermStyle.Proofs.SettingsLines

/-! Settings that were saved. The file gives them back, whatever the store held before; in an environment with wishes of its
own, these are laid over them. -/

namespace TermStyle.Proofs.SavedSettings
open Settings ActionRun ExceptSteps SettingsRun SettingsSources SettingsLines StylerRun

variable {store : Store} {settings : Settings} {path : String} {before after : Session} {env : Environment}
  {content : ByteArray}

theorem laidOver_unset (accepted : settings.validate = .ok settings) (unset : ∀ field : Field, env.filled? field.source = none) :
    laidOver settings env = .ok settings := by
  have level : environmentLevel env settings.level = .ok settings.level := by
    rw [environmentLevel]
    split
    · rfl
    next text filled =>
      rw [show env.filled? Variable.configLevel = none from unset .level] at filled
      cases filled
  have same : settings.overlayEnvironment env = .ok settings := by
    have color : env.filled? Variable.configColor = none := unset .colorMode
    have log : env.filled? Variable.configLogLevel = none := unset .logLevel
    rw [overlayEnvironment, level]
    dsimp only
    rw [color, log]
    rfl
  rw [laidOver_ok same, accepted]

theorem load_requested (named : path ≠ "") (requests : requested store path = ⟨.ok settings, []⟩) :
    load store env (some path) = ⟨laidOver settings env, []⟩ := by
  have asked : (some path).filter (!·.isEmpty) = some path := by simp [Option.filter, named]
  have files : ofFiles store env (some path) = ⟨.ok settings, []⟩ := by
    rw [ofFiles, asked]
    exact requests
  rw [load_value (congrArg Log.Noted.value files), files]

theorem saved_loaded (accepted : settings.validate = .ok settings) (saved : Returns (settings.save path) before () after)
    (env : Environment) : load after.world.store env (some path) = ⟨laidOver settings env, []⟩ := by
  obtain ⟨_, fine⟩ := validate_ok accepted
  obtain ⟨document, parsed, listed⟩ := entries_read fine
  obtain ⟨store, installed, rfl⟩ := returns_onStore.mp saved
  obtain ⟨read, there, named⟩ := SavedFile.installed_read installed
  have requests := requested_read (readEntries_ok parsed listed read) there
  rw [overlay_lines fine] at requests
  exact load_requested named requests

/-- Settings that were saved are loaded with the environment laid over them, and with nothing to note. They come back as they
were where no variable is filled, and otherwise differ in the fields whose variables are. -/
theorem saved_settings_loaded (accepted : settings.validate = .ok settings)
    (saved : Returns (settings.save path) before () after) (env : Environment) :
    load after.world.store env (some path) = ⟨laidOver settings env, []⟩ ∧
    ((∀ field : Field, env.filled? field.source = none) → (load after.world.store env (some path)).value = .ok settings) ∧
    ∀ found, (load after.world.store env (some path)).value = .ok found → ∀ field : Field,
      some (field.of found) = match env.filled? field.source with
        | some text => field.reads text
        | none => some (field.of settings) := by
  have loaded := saved_loaded accepted saved env
  refine ⟨loaded, fun unset => ?_, fun found reached field => ?_⟩
  · rw [loaded]
    exact laidOver_unset accepted unset
  · rw [loaded] at reached
    obtain ⟨laid, overlaid, validated⟩ := bind_ok_iff.mp reached
    obtain ⟨rfl, _⟩ := validate_ok validated
    exact (overlayEnvironment_of (mapError_ok_iff.mp overlaid) field).symm

/-- Settings with a level in small letters, of which one has no dot. -/
def dotlessSettings : Settings := ⟨.text "always", .int 2, .text "\u0131nfo"⟩

/-- A session with a file of one stray byte where the settings are to go. -/
def cluttered : Session :=
  let plain := plainSession .none
  { plain with world := { plain.world with
    store := ⟨[(⟨false, ["conf"]⟩, .directory), (⟨false, ["conf", "huecode.yml"]⟩, .file ⟨#[0xff]⟩)], none⟩ } }

private theorem dotless_accepted : dotlessSettings.validate = .ok dotlessSettings := by
  have fine : dotlessSettings.problem? = none := problem?_none_iff.mpr (by decide +kernel)
  rw [Settings.validate, fine]

theorem saved_settings_loaded_dotless : dotlessSettings.validate = .ok dotlessSettings ∧
    ∃ after, Returns (dotlessSettings.save "conf/huecode.yml") cluttered () after ∧
      (load after.world.store ⟨[]⟩ (some "conf/huecode.yml")).value = .ok dotlessSettings ∧
      load after.world.store ⟨[("HUECODE_COLOR", "never")]⟩ (some "conf/huecode.yml") =
        ⟨.ok ⟨.text "never", .int 2, .text "\u0131nfo"⟩, []⟩ := by
  have installed (content : ByteArray) : ∃ store,
      Store.Change.on cluttered.world.store (Store.install "conf/huecode.yml" content) = (.ok (), store) := ⟨_, rfl⟩
  obtain ⟨store, done⟩ := installed dotlessSettings.document.toUTF8
  have saved : Returns (dotlessSettings.save "conf/huecode.yml") cluttered () _ := returns_onStore.mpr ⟨store, done, rfl⟩
  have unset : ∀ field : Field, (⟨[]⟩ : Environment).filled? field.source = none := fun _ => rfl
  have wished : laidOver dotlessSettings ⟨[("HUECODE_COLOR", "never")]⟩ = .ok ⟨.text "never", .int 2, .text "\u0131nfo"⟩ := by
    have overlaid : dotlessSettings.overlayEnvironment ⟨[("HUECODE_COLOR", "never")]⟩ =
      .ok ⟨.text "never", .int 2, .text "\u0131nfo"⟩ := rfl
    have fine : Settings.problem? ⟨.text "never", .int 2, .text "\u0131nfo"⟩ = none := problem?_none_iff.mpr (by decide +kernel)
    rw [laidOver_ok overlaid, Settings.validate, fine]
  refine ⟨dotless_accepted, _, saved, (saved_settings_loaded dotless_accepted saved _).2.1 unset, ?_⟩
  rw [← wished]
  exact (saved_settings_loaded dotless_accepted saved _).1

end TermStyle.Proofs.SavedSettings
