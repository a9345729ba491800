import TermStyle.Proofs.CommandOutcome
import TermStyle.Proofs.HelplessReading
import TermStyle.Proofs.RunCourse
import TermStyle.Proofs.SavedSettings
import TermStyle.Proofs.StoreFrame
import TermStyle.Proofs.UnfiledRun

/-! A new settings file. What it holds goes by the words of its own command alone. It is not put over anything unless that
is asked for, and nothing else is changed for it, except that directories may be made. -/

namespace TermStyle.Proofs.FreshSettings
open CommandLine Settings ActionRun ActionFailure CommandOutcome HelplessReading LeadingFlags RunCourse RunFrame SettingsSources
open SettlingOutcome StoreFrame StylerRun TwoReadings UnfiledRun WordRoles

section Words

variable {tier : Tier} {columns : Int} {words : List String} {full : Parsed} {path : String} {mode level : Value} {force : Bool}

/-- Behind the name of the command stand words that its own grammar reads as these wishes. -/
def Asks (columns : Int) (words : List String) (path : String) (mode level : Value) (force : Bool) : Prop :=
  ∃ front entries own parsed, words = front ++ "config" :: "init" :: own ∧ Leading wholeFlags front entries ∧
    (Program.initTree columns).parse own = .ok parsed ∧
    Command.ofParsed? { parsed with path := ["config", "init"] } = some (.initSettings path mode level force)

theorem asked_path (asked : Command.ofParsed? full = some (.initSettings path mode level force)) :
    full.path = ["config", "init"] := by
  unfold Command.ofParsed? at asked
  dsimp only at asked
  split at asked <;> first | assumption | cases asked

theorem leading_help {entries : List (String × Value)} (leading : Leading [Program.helpFlag] words entries) :
    words = [] ∧ entries = [] := by
  cases leading with
  | nil => exact ⟨rfl, rfl⟩
  | cons said _ =>
    have helping {text name : String} {flag : Flag} {attached : Option String}
        (plays : Plays [Program.helpFlag] text (.flag flag name attached)) : flag = Program.helpFlag :=
      List.mem_singleton.mp (mem_named.mp (roleOf_named plays.2)).1
    cases said with
    | switched plays effect | attached plays effect | apart plays effect =>
      rw [helping plays] at effect
      cases effect

theorem help_spoken : Spoken [Program.helpFlag] := by
  intro flag name named
  rw [List.mem_singleton.mp (mem_named.mp named).1]
  exact Or.inl rfl

def ownFields : List String := ["config_path", "color_mode", "init_level", "force"]

/-- What stands under the fields of the command decides what it asks for. -/
theorem asked_alike {first second : Parsed} (same : first.path = second.path) (named : second.path = ["config", "init"])
    (alike : ∀ field ∈ ownFields, first.get field = second.get field) : Command.ofParsed? first = Command.ofParsed? second := by
  have file := alike "config_path" (by decide)
  have mode := alike "color_mode" (by decide)
  have level := alike "init_level" (by decide)
  have force := alike "force" (by decide)
  unfold Command.ofParsed?
  simp only [same, named, Parsed.text?, Parsed.isSet, file, mode, level, force]

/-- No flag in front of the command, and no choice of a command, has a field of its own. -/
theorem own_apart {entries : List (String × Value)} {field : String} (leading : Leading wholeFlags words entries)
    (listed : field ∈ ownFields) :
    ∀ entry ∈ ("config_command", Value.text "init") :: ("config_command", .null) ::
      ("command", .text "config") :: (entries.reverse ++ ("command", .null) :: unsaid), entry.1 ≠ field := by
  have fixed : ∀ field ∈ ownFields, field ∉ "config_command" :: "command" :: wholeFlags.map (·.field) := by decide
  have alien : ∀ entry ∈ ("config_command", Value.text "init") :: ("config_command", .null) :: ("command", .text "config") ::
      ("command", .null) :: unsaid, entry.1 ∈ "config_command" :: "command" :: wholeFlags.map (·.field) := by decide
  rintro entry member rfl
  refine fixed _ listed ?_
  by_cases left : entry ∈ entries
  · obtain ⟨flag, global, same⟩ := leading.fields entry left
    rw [same]
    simp [List.mem_map_of_mem global]
  · exact alien entry (by simpa [left] using member)

theorem command_asks (read : (Program.tree tier columns).parse words = .ok full)
    (asked : Command.ofParsed? full = some (.initSettings path mode level force)) : Asks columns words path mode level force := by
  have named := asked_path asked
  obtain ⟨read, taken⟩ := FlagValues.parse_ok_iff.mp read
  obtain ⟨front, entries, name, back, found, rfl, leading, _, branch, foundTaken, rfl⟩ :=
    read_selects wholeFlags_spoken read taken (by simp [named])
  obtain ⟨rfl, deeper⟩ := List.cons.inj named
  have inner : (Program.settingsTree tier columns).read back = .ok found := Option.some.inj branch
  obtain ⟨_, _, name, own, parsed, rfl, helping, _, leaf, parsedTaken, rfl⟩ :=
    read_selects help_spoken inner foundTaken (by simp [deeper])
  obtain ⟨rfl, rfl⟩ := leading_help helping
  obtain ⟨rfl, _⟩ := List.cons.inj deeper
  have innermost : (Program.initTree columns).read own = .ok parsed := Option.some.inj leaf
  refine ⟨front, entries, own, parsed, rfl, leading, FlagValues.parse_ok_iff.mpr ⟨innermost, parsedTaken⟩, ?_⟩
  rw [← asked]
  refine asked_alike named.symm named fun field listed => ?_
  have ahead := @lookup_ahead parsed.values _ field (own_apart leading listed)
  rw [Parsed.get, Parsed.get, ← ahead, List.append_assoc]
  rfl

end Words

section Runs

variable {given : List String} {before middle after session : Session} {tier : Tier} {columns : Int} {full : Parsed}
  {path : String} {mode level : Value} {force : Bool} {result : Except Failure Ending × Session}

def announcement (name : String) (settings : Settings) : String :=
  "Created config file: " ++ name ++ "\n" ++ "\nGenerated configuration:" ++ "\n" ++ Perform.ruler '-' 30 ++ "\n" ++
    settings.document ++ "\n"

/-- The file of that name, and no other, was written. It was announced, and gives the settings back where no variable is
filled. -/
structure Created (name : String) (settings : Settings) (before after : Session) : Prop where
  placed : Placed name settings.document.toUTF8 before.world.store after.world.store
  told : after.world.output = before.world.output ++ announcement name settings
  loaded : ∀ env : Environment, (∀ field : Field, env.filled? field.source = none) →
    load after.world.store env (some name) = ⟨.ok settings, []⟩

def announced (name : String) (settings : Settings) (session : Session) : Session :=
  { session with world := { session.world with output := session.world.output ++ announcement name settings } }

theorem announce_run (name : String) (settings : Settings) (session : Session) :
    outcome (announce name settings) session = (.ok (), announced name settings session) := by
  simp only [announce, Action.print, outcome_bind, outcome_inWorld, andThen_ok, World.print]
  unfold announced announcement
  generalize settings.document = document
  simp only [String.append_assoc]

theorem normal_there (store : Store) (path : String) : isThere store (normal path) = isThere store path := by
  rw [isThere, normal, NormalPath.text_normal]
  rfl

theorem initSettings_taken (there : isThere session.world.store path = .ok true) :
    outcome (Perform.initSettings path mode level false) session =
      (.error (.problem (Perform.alreadyThere (normal path))), session) := by
  rw [initSettings_run, normal_there, there]
  rfl

theorem make_returns {wanted : Settings} {name : String} (returned : Returns (make name wanted) before () after) :
    Created name wanted before after := by
  obtain ⟨settings, _, checked, making⟩ := returns_bind.mp returned
  rw [Returns, outcome_ofExcept] at checked
  obtain ⟨valid, rfl⟩ := Prod.mk.inj checked
  obtain ⟨rfl, _⟩ := SettingsRun.validate_ok valid
  obtain ⟨_, saved, saving, announcing⟩ := returns_bind.mp making
  obtain ⟨store, installed, rfl⟩ := returns_onStore.mp saving
  rw [Returns, announce_run] at announcing
  obtain ⟨_, rfl⟩ := Prod.mk.inj announcing
  refine ⟨installed_placed installed, rfl, fun env unset => ?_⟩
  rw [← SavedSettings.laidOver_unset valid unset]
  exact SavedSettings.saved_loaded valid saving env

theorem initSettings_returns (returned : Returns (Perform.initSettings path mode level force) before () after) :
    Created (normal path) (chosen mode level) before after := by
  rw [Returns, initSettings_run] at returned
  cases there : isThere before.world.store (normal path) with
  | error fault =>
    rw [there] at returned
    cases returned
  | ok known =>
    simp only [there, Except.mapError, andThen_ok] at returned
    split at returned
    · cases returned
    · exact make_returns returned

section Performing

variable {globals : Globals} {settings : Settings} {command wanted : Command} {inForce : Tier}
  (performs : Performs given before globals settings command middle inForce)

include performs

theorem performs_asked (read : (Program.tree tier columns).parse (DefaultCommand.insert given) = .ok full)
    (asked : Command.ofParsed? full = some wanted) : command = wanted := by
  obtain ⟨_, found, accepted, same⟩ := performs
  obtain rfl := Except.ok.inj ((parse_alike read).symm.trans accepted)
  exact Option.some.inj (same.symm.trans asked)

/-- Up to the command, no file was written and nothing was printed. -/
theorem performs_untouched (unfiled : Unfiled before.world.log.handlers) :
    middle.world.store = before.world.store ∧ Unfiled middle.world.log.handlers ∧ middle.world.output = before.world.output := by
  obtain ⟨⟨flags, configured, rfl⟩, _⟩ := performs
  have untouched := configure_untouched (.ofParsed flags) before unfiled
  have steady := configure_steady (.ofParsed flags) before
  rw [configured.configured] at untouched steady
  exact ⟨untouched.1, untouched.2, steady.output⟩

end Performing

theorem stops_refused {stop : Stop} (stops : Stops given before stop session)
    (read : (Program.tree tier columns).parse (DefaultCommand.insert given) = .ok full) :
    session = before ∧ ∃ usage program message, stop = .refused usage program message := by
  cases stops with
  | first refused =>
    refine ⟨rfl, ?_⟩
    cases stop with
    | help text => exact absurd refused (preliminary_helpless _ _ text)
    | refused usage program message => exact ⟨usage, program, message, rfl⟩
  | second configured refused => cases (parse_alike read).symm.trans refused

section Outcomes

variable (unfiled : Unfiled before.world.log.handlers)
  (read : (Program.tree tier columns).parse (DefaultCommand.insert given) = .ok full)

include unfiled read

/-- Where something is under the name and is not to be overwritten, the run leaves the files alone and does not end well. -/
theorem taken_left (asked : Command.ofParsed? full = some (.initSettings path mode level false))
    (there : isThere before.world.store path = .ok true) (course : Course given before result) :
    result.2.world.store = before.world.store ∧ ∀ ending, result.1 = .ok ending → ending.code ≠ 0 := by
  have taken {globals : Globals} {settings : Settings} {command : Command} {inForce : Tier} {middle : Session}
      (performs : Performs given before globals settings command middle inForce) :
      outcome (Perform.command settings globals command) middle =
        (.error (.problem (Perform.alreadyThere (normal path))), middle) := by
    obtain rfl := performs_asked performs read asked
    rw [← (performs_untouched performs unfiled).1] at there
    exact initSettings_taken there
  cases course with
  | stopped stops =>
    obtain ⟨rfl, usage, program, message, rfl⟩ := stops_refused stops read
    refine ⟨rfl, ?_⟩
    rintro _ ⟨⟩
    decide
  | @reported problem session comes =>
    have kept : session.world.store = before.world.store ∧ Unfiled session.world.log.handlers := by
      cases comes with
      | @settling flags _ accepted failed =>
        have untouched := configure_untouched (.ofParsed flags) before unfiled
        rwa [failed] at untouched
      | performing performs failed =>
        obtain ⟨_, rfl⟩ := Prod.mk.inj ((taken performs).symm.trans failed)
        obtain ⟨same, still, _⟩ := performs_untouched performs unfiled
        exact ⟨same, still⟩
    refine ⟨(reported_leads performing_untouched problem session kept.2).1.trans kept.1, fun ending ended => ?_⟩
    rw [reported_failing (Prod.ext ended rfl)]
    decide
  | @unsettled flags _ _ accepted failed =>
    have untouched := configure_untouched (.ofParsed flags) before unfiled
    rw [failed] at untouched
    exact ⟨untouched.1, by simp⟩
  | unnamed configured accepted unasked =>
    obtain rfl := Except.ok.inj ((parse_alike read).symm.trans accepted)
    cases asked.symm.trans unasked
  | performed performs returned => cases (taken performs).symm.trans returned
  | cancelled performs failed => cases (taken performs).symm.trans failed
  | broken performs failed => cases (taken performs).symm.trans failed

theorem succeeded_created (asked : Command.ofParsed? full = some (.initSettings path mode level force))
    (course : Course given before result) {ending : Ending} (ended : result.1 = .ok ending) (well : ending.code = 0) :
    Created (normal path) (chosen mode level) before result.2 := by
  cases course with
  | stopped stops =>
    obtain ⟨_, usage, program, message, rfl⟩ := stops_refused stops read
    cases ended
    cases well
  | reported =>
    rw [reported_failing (Prod.ext ended rfl)] at well
    cases well
  | unnamed | cancelled =>
    cases ended
    cases well
  | unsettled | broken => cases ended
  | performed performs returned =>
    obtain rfl := performs_asked performs read asked
    obtain ⟨placed, told, loaded⟩ := initSettings_returns returned
    obtain ⟨same, _, silent⟩ := performs_untouched performs unfiled
    rw [same] at placed
    rw [silent] at told
    exact ⟨placed, told, loaded⟩

end Outcomes

/-- What a new settings file holds goes by the words of its command alone, whatever was in effect. Where something is under
the name, the run leaves the files alone and does not end well unless it is told to overwrite; and a run that ends well has
written the file and no other. -/
theorem fresh_settings (unfiled : Unfiled before.world.log.handlers)
    (read : (Program.tree tier columns).parse (DefaultCommand.insert given) = .ok full)
    (asked : Command.ofParsed? full = some (.initSettings path mode level force)) :
    Asks columns (DefaultCommand.insert given) path mode level force ∧
    (force = false → isThere before.world.store path = .ok true →
      (outcome (Perform.run given) before).2.world.store = before.world.store ∧
        ∀ ending, (outcome (Perform.run given) before).1 = .ok ending → ending.code ≠ 0) ∧
    ∀ ending after, Returns (Perform.run given) before ending after → ending.code = 0 →
      Created (normal path) ⟨mode, level, .text "WARNING"⟩ before after := by
  refine ⟨command_asks read asked, ?_, fun ending after ended well => ?_⟩
  · rintro rfl there
    exact taken_left unfiled read asked there (run_course given before)
  · have course := run_course given before
    rw [ended] at course
    exact succeeded_created unfiled read asked course rfl well

end Runs

/-- A session in which other settings are in effect than the ones that are to be written. -/
def swayed : Session :=
  let plain := plainSession .truecolor
  { plain with world := { plain.world with env := ⟨[("HUECODE_COLOR", "never"), ("HUECODE_LEVEL", "3")]⟩ } }

def cramped : Session :=
  { swayed with world := { swayed.world with store := ⟨[(⟨false, ["huecode.yml"]⟩, .file ⟨#[]⟩)], none⟩ } }

private theorem swayed_runs : ∃ after, Returns (Perform.run doubled) swayed ⟨0, false⟩ after := by
  have accepted : (Program.preliminary (Program.columns swayed.world.env)).parse
      (Perform.preliminaryWords (DefaultCommand.insert doubled)) = .ok doubledFlags := by
    rw [doubled_inserted.1, doubled_inserted.2]
    exact doubled_accepted _
  obtain ⟨settings, middle, tier, configured, inForce⟩ : ∃ settings middle tier,
      Returns (Perform.configure (.ofParsed doubledFlags)) swayed settings middle ∧ middle.styler.tier = some tier :=
    ⟨_, _, _, rfl, rfl⟩
  have read : (Program.tree tier (Program.columns middle.world.env)).parse (DefaultCommand.insert doubled) = .ok doubledFull := by
    rw [doubled_inserted.1]
    exact doubled_read _ _
  have performs : Performs doubled swayed (.ofParsed doubledFlags) settings
      (.initSettings "huecode.yml" (.text "auto") (.int 2) false) middle tier :=
    ⟨⟨doubledFlags, ⟨accepted, configured, inForce⟩, rfl⟩, doubledFull, read, rfl⟩
  have empty : middle.world.store = .empty := (performs_untouched performs (List.forall_mem_nil _)).1
  have valid : (chosen (.text "auto") (.int 2)).validate = .ok (chosen (.text "auto") (.int 2)) := by
    have fine : (chosen (.text "auto") (.int 2)).problem? = none := SettingsRun.problem?_none_iff.mpr (by decide +kernel)
    rw [Settings.validate, fine]
  have installed (content : ByteArray) : ∃ store, (Store.install "huecode.yml" content).on .empty = (.ok (), store) := ⟨_, rfl⟩
  rcases returns_or_fails (Perform.command settings (.ofParsed doubledFlags)
    (.initSettings "huecode.yml" (.text "auto") (.int 2) false)) middle with ⟨_, after, returned⟩ | ⟨failure, failed⟩
  · refine ⟨after, ?_⟩
    rw [Returns, performs.run, returned]
  · rw [initSettings_fails, empty, show normal "huecode.yml" = "huecode.yml" from rfl] at failed
    rcases failed with ⟨_, unsought, _⟩ | ⟨there, _⟩ | ⟨_, wrong | ⟨written, _, _, unwritten, _⟩⟩
    · cases unsought
    · cases there
    · cases valid.symm.trans wrong
    · obtain ⟨store, done⟩ := installed written.document.toUTF8
      rw [done] at unwritten
      cases unwritten

/-- The file gets the level behind the command and not the one in front of it. -/
theorem fresh_settings_doubled :
    (∃ after, Returns (Perform.run doubled) swayed ⟨0, false⟩ after ∧
      Created "huecode.yml" ⟨.text "auto", .int 2, .text "WARNING"⟩ swayed after) ∧
    (outcome (Perform.run doubled) cramped).2.world.store = cramped.world.store ∧
      ∀ ending, (outcome (Perform.run doubled) cramped).1 = .ok ending → ending.code ≠ 0 := by
  have read : (Program.tree .none 80).parse (DefaultCommand.insert doubled) = .ok doubledFull := by
    rw [doubled_inserted.1]
    exact doubled_read .none 80
  have asked : Command.ofParsed? doubledFull = some (.initSettings "huecode.yml" (.text "auto") (.int 2) false) := rfl
  have unfiled : Unfiled [] := List.forall_mem_nil _
  refine ⟨?_, (@fresh_settings doubled cramped _ _ _ _ _ _ _ unfiled read asked).2.1 rfl rfl⟩
  obtain ⟨after, ended⟩ := swayed_runs
  exact ⟨after, ended, (@fresh_settings doubled swayed _ _ _ _ _ _ _ unfiled read asked).2.2 _ after ended rfl⟩

end TermStyle.Proofs.FreshSettings
