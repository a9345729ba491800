import TermStyle.Proofs.DocumentSource
import TermStyle.Proofs.SettingsSources

/-! A settings file that is found and is of no use. Whether it counts for nothing depends on the fault behind it: faults of
files and of a document's form are noted and passed over, and all others end the load. -/

namespace TermStyle.Proofs.DiscoveredFile
open Settings ExceptSteps SettingsRun SettingsSources

/-- A file that gives no settings, with the fault behind that if there is one. -/
inductive Broken (store : Store) (name : String) : Option Fault → Prop
  | unread {error : Store.Error} (failed : store.read name = .error error) : Broken store name (some (.store error))
  | unparsed {content : ByteArray} {fault : Fault} (read : store.read name = .ok content)
      (failed : Yaml.read content = .error fault) : Broken store name (some fault)
  | noMapping {content : ByteArray} {document : Yaml.Document} (read : store.read name = .ok content)
      (parsed : Yaml.read content = .ok document) (shapeless : document.entries? = none) : Broken store name none

/-- The faults that do not end the load. -/
def Absorbed : Option Fault → Prop
  | none | some (.store _) | some .document => True
  | _ => False

variable {store bare : Store} {env : Environment} {name : String} {cause : Option Fault}

theorem broken_entries (broken : Broken store name cause) :
    readEntries store name = .error ((cause.map Obstacle.ofFault).getD .notMapping) := by
  unfold readEntries
  cases broken with
  | unread failed =>
    rw [failed]
    rfl
  | unparsed read failed =>
    rw [read]
    simp [failed, bind, Except.bind]
  | noMapping read parsed shapeless =>
    have none : entries? _ = none := congrArg (Option.map _) shapeless
    rw [read]
    simp only [mapError_ok, parsed, bind, Except.bind]
    rw [none]
    rfl

theorem absorbed_noted (absorbed : Absorbed cause) (name : String) :
    ∃ record, ((cause.map Obstacle.ofFault).getD .notMapping).record? name = some record := by
  unfold Absorbed at absorbed
  split at absorbed
  · exact ⟨_, rfl⟩
  · exact ⟨_, rfl⟩
  · exact ⟨_, rfl⟩
  · exact absorbed.elim

theorem unabsorbed_stray (unabsorbed : ¬ Absorbed cause) :
    ∃ fault, cause = some fault ∧ Obstacle.ofFault fault = .stray fault := by
  cases cause with
  | none => exact absurd trivial unabsorbed
  | some fault =>
    refine ⟨fault, rfl, ?_⟩
    unfold Obstacle.ofFault
    split
    · exact absurd trivial unabsorbed
    · exact absurd trivial unabsorbed
    · rfl

theorem load_missing (missing : find bare env = .ok none) : (load bare env none).value = laidOver standard env := by
  have none : (ofFiles bare env none).value = .ok standard := by
    change (discovered bare env).value = _
    rw [discovered, missing]
  rw [load_value none]

theorem load_absorbed (found : find store env = .ok (some name)) (broken : Broken store name cause)
    (absorbed : Absorbed cause) : (load store env none).value = laidOver standard env := by
  obtain ⟨record, noted⟩ := absorbed_noted absorbed name
  have passed : (ofFiles store env none).value = .ok standard := by
    change (discovered store env).value = _
    rw [discovered, found]
    dsimp only
    rw [broken_entries broken]
    dsimp only
    rw [noted]
  rw [load_value passed]

theorem load_unabsorbed (found : find store env = .ok (some name)) (broken : Broken store name cause)
    (unabsorbed : ¬ Absorbed cause) : ∃ fault, cause = some fault ∧ (load store env none).value = .error (.fault fault) := by
  obtain ⟨fault, rfl, stray⟩ := unabsorbed_stray unabsorbed
  have ended : (ofFiles store env none).value = .error (.fault fault) := by
    change (discovered store env).value = _
    rw [discovered, found]
    dsimp only
    rw [broken_entries broken]
    simp [stray, Obstacle.record?, Obstacle.failure]
  refine ⟨fault, rfl, ?_⟩
  rw [load, ended]
  rfl

def OfSettings (failure : Failure) : Prop :=
  ∃ message key value path cause, failure = .problem (.configuration message key value path cause)

theorem problem?_ofSettings {settings : Settings} {problem : Problem} (wrong : settings.problem? = some problem) :
    OfSettings (.problem problem) := by
  unfold Settings.problem? at wrong
  split at wrong
  · cases wrong
    exact ⟨_, _, _, _, _, rfl⟩
  · split at wrong
    · cases wrong
      exact ⟨_, _, _, _, _, rfl⟩
    · split at wrong
      · cases wrong
        exact ⟨_, _, _, _, _, rfl⟩
      · cases wrong

theorem overlayEnvironment_error {settings : Settings} {problem : Problem}
    (failed : settings.overlayEnvironment env = .error problem) : OfSettings (.problem problem) := by
  unfold Settings.overlayEnvironment at failed
  cases level : environmentLevel env settings.level with
  | ok found =>
    rw [level] at failed
    cases failed
  | error other =>
    rw [level] at failed
    cases failed
    unfold environmentLevel at level
    split at level
    · cases level
    · split at level
      · cases level
      · cases level
        exact ⟨_, _, _, _, _, rfl⟩

theorem laid_logLevel {laid : Settings} (overlaid : standard.overlayEnvironment env = .ok laid) :
    ∃ text, laid.logLevel = .text text := by
  have field := overlayEnvironment_of overlaid .logLevel
  dsimp only [Field.reads, Field.of] at field
  split at field
  · exact ⟨_, (Option.some.inj field).symm⟩
  · exact ⟨_, (Option.some.inj field).symm⟩

/-- Without a file, nothing but the environment can be wrong, and what is wrong is told as such. -/
theorem laidOver_error {failure : Failure} (failed : laidOver standard env = .error failure) : OfSettings failure := by
  unfold laidOver at failed
  cases overlaid : standard.overlayEnvironment env with
  | error problem =>
    rw [overlaid] at failed
    cases failed
    exact overlayEnvironment_error overlaid
  | ok laid =>
    rw [overlaid] at failed
    change laid.validate = .error failure at failed
    obtain ⟨text, level⟩ := laid_logLevel overlaid
    have short : laid.logLevel.isOversized = false := by
      rw [level]
      rfl
    unfold Settings.validate at failed
    split at failed
    · cases failed
    next problem wrong =>
      rw [short, Bool.and_false] at failed
      cases failed
      exact problem?_ofSettings wrong

/-- A file of no use counts for nothing exactly if the fault behind it is one that is absorbed; any other ends the load. -/
theorem broken_file_absorbed_iff (found : find store env = .ok (some name)) (broken : Broken store name cause)
    (missing : find bare env = .ok none) :
    ((load store env none).value = (load bare env none).value ↔ Absorbed cause) ∧
    (∀ failure, (load bare env none).value = .error failure → OfSettings failure) ∧
    (¬ Absorbed cause → ∃ fault, cause = some fault ∧ (load store env none).value = .error (.fault fault)) := by
  rw [load_missing missing]
  refine ⟨⟨?_, load_absorbed found broken⟩, fun failure => laidOver_error, load_unabsorbed found broken⟩
  intro same
  by_contra unabsorbed
  obtain ⟨fault, _, ended⟩ := load_unabsorbed found broken unabsorbed
  obtain ⟨_, _, _, _, _, told⟩ := laidOver_error (same.symm.trans ended)
  cases told

def occupied : Store := ⟨[(⟨false, ["huecode.yml"]⟩, .directory)], none⟩

def wishing : Environment := ⟨[("HUECODE_COLOR", "Always")]⟩

theorem broken_file_absorbed_directory :
    find occupied wishing = .ok (some "huecode.yml") ∧ Broken occupied "huecode.yml" (some (.store .isDirectory)) ∧
    find .empty wishing = .ok none ∧ (load occupied wishing none).value = (load .empty wishing none).value := by
  have found : find occupied wishing = .ok (some "huecode.yml") := rfl
  have broken : Broken occupied "huecode.yml" (some (.store .isDirectory)) := .unread rfl
  have missing : find .empty wishing = .ok none := rfl
  exact ⟨found, broken, missing, (broken_file_absorbed_iff found broken missing).1.mpr trivial⟩

def garbled : Store := ⟨[(⟨false, ["huecode.yml"]⟩, .file ⟨#[0xff]⟩)], none⟩

private theorem garbled_undecodable : Broken garbled "huecode.yml" (some .undecodable) := by
  have bytes : (⟨#[0xff]⟩ : ByteArray).toList = [0xff] := DocumentSource.toList_data _
  have source : Yaml.Source.ofBytes ⟨#[0xff]⟩ = ⟨[], some .undecodable⟩ := by
    rw [Yaml.Source.ofBytes, Yaml.Source.Stream.start, bytes]
    rfl
  refine .unparsed rfl ?_
  rw [Yaml.read, source]
  rfl

theorem garbled_file_fails : find garbled ⟨[]⟩ = .ok (some "huecode.yml") ∧
    Broken garbled "huecode.yml" (some .undecodable) ∧ find .empty ⟨[]⟩ = .ok none ∧
    (load .empty ⟨[]⟩ none).value = .ok standard ∧ (load garbled ⟨[]⟩ none).value = .error (.fault .undecodable) := by
  have found : find garbled ⟨[]⟩ = .ok (some "huecode.yml") := rfl
  obtain ⟨_, ⟨⟩, failed⟩ := load_unabsorbed found garbled_undecodable (by simp [Absorbed])
  exact ⟨found, garbled_undecodable, rfl, rfl, failed⟩

end TermStyle.Proofs.DiscoveredFile
