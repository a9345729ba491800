import TermStyle.Proofs.SettingsSources

/-! How loading settings fails. Every failure has its place on the way: the search for a file, its reading, the level in
the environment, or the check of what came together. Most are problems for the user; the rest are faults. -/

namespace TermStyle.Proofs.LoadOutcome
open Text Settings ExceptSteps SettingsRun SettingsSources

variable {store : Store} {env : Environment} {path : Option String} {failure : Failure}

def missingProblem (name : String) : Problem := .configuration "Config file not found" none none (some name) none

/-- The files give no settings. A file that was found fails only by a stray fault, one that was asked for by anything. -/
inductive Unfiled (store : Store) (env : Environment) (path : Option String) : Failure → Prop
  | unsought {name fault} (asked : path.filter (!·.isEmpty) = some name) (failed : isThere store name = .error fault) :
      Unfiled store env path (.fault fault)
  | missing {name} (asked : path.filter (!·.isEmpty) = some name) (absent : isThere store name = .ok false) :
      Unfiled store env path (.problem (missingProblem name))
  | obstructed {name obstacle} (asked : path.filter (!·.isEmpty) = some name) (there : isThere store name = .ok true)
      (unread : readEntries store name = .error obstacle) : Unfiled store env path (obstacle.failure name)
  | unfound {fault} (unasked : path.filter (!·.isEmpty) = none) (failed : find store env = .error fault) :
      Unfiled store env path (.fault fault)
  | stray {name fault} (unasked : path.filter (!·.isEmpty) = none) (found : find store env = .ok (some name))
      (unread : readEntries store name = .error (.stray fault)) : Unfiled store env path (.fault fault)

theorem ofFiles_asked {name : String} (asked : path.filter (!·.isEmpty) = some name) :
    ofFiles store env path = requested store name := by
  unfold ofFiles
  rw [asked]

theorem ofFiles_unasked (unasked : path.filter (!·.isEmpty) = none) : ofFiles store env path = discovered store env := by
  unfold ofFiles
  rw [unasked]

theorem ofFiles_fails : (ofFiles store env path).value = .error failure ↔ Unfiled store env path failure := by
  constructor
  · intro failed
    cases asked : path.filter (!·.isEmpty) with
    | some name =>
      rw [ofFiles_asked asked] at failed
      unfold requested at failed
      split at failed
      next fault unsought =>
        cases failed
        exact .unsought asked unsought
      next absent =>
        cases failed
        exact .missing asked absent
      next there =>
        split at failed
        next obstacle unread =>
          cases failed
          exact .obstructed asked there unread
        · cases failed
    | none =>
      rw [ofFiles_unasked asked] at failed
      unfold discovered at failed
      split at failed
      next fault unfound =>
        cases failed
        exact .unfound asked unfound
      · cases failed
      next name found =>
        split at failed
        next obstacle unread =>
          split at failed
          · cases failed
          next unnoted =>
            cases obstacle with
            | stray fault =>
              cases failed
              exact .stray asked found unread
            | unreadable fault => cases unnoted
            | notMapping => cases unnoted
        · cases failed
  · intro unfiled
    cases unfiled with
    | unsought asked failed =>
      rw [ofFiles_asked asked]
      unfold requested
      rw [failed]
    | missing asked absent =>
      rw [ofFiles_asked asked]
      unfold requested
      rw [absent]
      rfl
    | obstructed asked there unread =>
      rw [ofFiles_asked asked]
      unfold requested
      rw [there]
      dsimp only
      rw [unread]
    | unfound unasked failed =>
      rw [ofFiles_unasked unasked]
      unfold discovered
      rw [failed]
    | stray unasked found unread =>
      rw [ofFiles_unasked unasked]
      unfold discovered
      rw [found]
      dsimp only
      rw [unread]
      rfl

/-- What the files and the environment come to, before it is checked. -/
def Laid (store : Store) (env : Environment) (path : Option String) (laid : Settings) : Prop :=
  ∃ files, (ofFiles store env path).value = .ok files ∧ files.overlayEnvironment env = .ok laid

/-- Only the text of the log level can be too long, and it is looked at last. -/
def Overlong (settings : Settings) : Prop :=
  isMode settings.colorMode = true ∧ isLevel settings.level = true ∧ settings.logLevel.isOversized = true

inductive Unloaded (store : Store) (env : Environment) (path : Option String) : Failure → Prop
  | unfiled {failure : Failure} (failed : Unfiled store env path failure) : Unloaded store env path failure
  | numeral {files text error} (filed : (ofFiles store env path).value = .ok files)
      (said : env.filled? Variable.configLevel = some text) (unread : Numeral.read text = .error error) :
      Unloaded store env path (.problem (levelProblem Variable.configLevel (.text text) (some (.numeral error))))
  | wrong {laid problem} (made : Laid store env path laid) (found : laid.problem? = some problem) (short : ¬ Overlong laid) :
      Unloaded store env path (.problem problem)
  | overlong {laid} (made : Laid store env path laid) (wrong : laid.problem? ≠ none) (long : Overlong laid) :
      Unloaded store env path (.fault .oversized)

theorem overlayEnvironment_fails {settings : Settings} {problem : Problem} :
    settings.overlayEnvironment env = .error problem ↔ ∃ text error, env.filled? Variable.configLevel = some text ∧
      Numeral.read text = .error error ∧
      problem = levelProblem Variable.configLevel (.text text) (some (.numeral error)) := by
  unfold Settings.overlayEnvironment environmentLevel
  cases said : env.filled? Variable.configLevel with
  | none => simp [bind, Except.bind, pure, Except.pure]
  | some text =>
    cases read : Numeral.read text with
    | ok level => simp [bind, Except.bind, pure, Except.pure, read]
    | error error => simp [bind, Except.bind, read, eq_comm]

theorem validate_fails {settings : Settings} : settings.validate = .error failure ↔
    (∃ problem, settings.problem? = some problem ∧ ¬ Overlong settings ∧ failure = .problem problem) ∨
      settings.problem? ≠ none ∧ Overlong settings ∧ failure = .fault .oversized := by
  have long : Overlong settings ↔
      (isMode settings.colorMode && isLevel settings.level && settings.logLevel.isOversized) = true := by
    simp [Overlong, and_assoc]
  unfold Settings.validate
  rw [long]
  cases settings.problem? with
  | none => simp
  | some problem =>
    cases isMode settings.colorMode && isLevel settings.level && settings.logLevel.isOversized <;> simp [eq_comm]

theorem Laid.unique {first second : Settings} (one : Laid store env path first) (other : Laid store env path second) :
    first = second := by
  obtain ⟨files, filed, overlaid⟩ := one
  obtain ⟨_, same, overlaidToo⟩ := other
  cases filed.symm.trans same
  exact Except.ok.inj (overlaid.symm.trans overlaidToo)

/-- Loading fails in these ways and no other. -/
theorem load_fails : (load store env path).value = .error failure ↔ Unloaded store env path failure := by
  cases filed : (ofFiles store env path).value with
  | error cause =>
    have same : (load store env path).value = .error cause := by
      rw [load, filed]
      rfl
    have unlaid (laid : Settings) : ¬ Laid store env path laid := by
      rintro ⟨_, other, _⟩
      cases filed.symm.trans other
    rw [same]
    constructor
    · rintro ⟨⟩
      exact .unfiled (ofFiles_fails.mp filed)
    · intro unloaded
      cases unloaded with
      | unfiled failed => rw [← filed, ofFiles_fails.mpr failed]
      | numeral other => cases filed.symm.trans other
      | wrong made => exact absurd made (unlaid _)
      | overlong made => exact absurd made (unlaid _)
  | ok files =>
    have filled : ¬ Unfiled store env path failure := by
      intro unfiled
      cases filed.symm.trans (ofFiles_fails.mpr unfiled)
    rw [load_value filed]
    dsimp only
    cases overlaid : files.overlayEnvironment env with
    | error problem =>
      have unlaid (laid : Settings) : ¬ Laid store env path laid := by
        rintro ⟨_, other, overlaidToo⟩
        cases filed.symm.trans other
        cases overlaid.symm.trans overlaidToo
      obtain ⟨text, error, said, unread, rfl⟩ := overlayEnvironment_fails.mp overlaid
      rw [laidOver, overlaid]
      constructor
      · rintro ⟨⟩
        exact .numeral filed said unread
      · intro unloaded
        cases unloaded with
        | unfiled failed => exact absurd failed filled
        | numeral _ saidToo unreadToo =>
          cases said.symm.trans saidToo
          cases unread.symm.trans unreadToo
          rfl
        | wrong made => exact absurd made (unlaid _)
        | overlong made => exact absurd made (unlaid _)
    | ok laid =>
      have made : Laid store env path laid := ⟨files, filed, overlaid⟩
      rw [laidOver_ok overlaid, validate_fails]
      constructor
      · rintro (⟨problem, found, short, rfl⟩ | ⟨wrong, long, rfl⟩)
        · exact .wrong made found short
        · exact .overlong made wrong long
      · intro unloaded
        cases unloaded with
        | unfiled failed => exact absurd failed filled
        | numeral _ said unread =>
          cases overlaid.symm.trans (overlayEnvironment_fails.mpr ⟨_, _, said, unread, rfl⟩)
        | wrong other found short =>
          obtain rfl := made.unique other
          exact Or.inl ⟨_, found, short, rfl⟩
        | overlong other wrong long =>
          obtain rfl := made.unique other
          exact Or.inr ⟨wrong, long, rfl⟩

end TermStyle.Proofs.LoadOutcome
