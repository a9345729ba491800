import TermStyle.Proofs.Logging
import TermStyle.Styler

/-! What a styler does in a session. Everything that needs a tier begins by reading it, which asks the detector if no
tier is in force, and goes on with that one tier alone. -/

namespace TermStyle.Proofs.StylerRun
open Log ActionRun Logging ExceptSteps

def detected (world : World) : Except Fault Tier :=
  (Detection.detect world.env world.platform.onWindows world.platform.version).value

/-- What the detector answers when it is asked now. -/
def answer (session : Session) : Noted (Except Fault Value) :=
  match session.styler.detector with
  | .environment =>
    let world := session.world
    let found := Detection.detect world.env world.platform.onWindows world.platform.version
    ⟨found.value.map fun tier => .int tier.level, found.records⟩
  | .script answers => ⟨.ok (answers session.styler.detections), []⟩

def counted (session : Session) : Session :=
  { session with styler := { session.styler with detections := session.styler.detections + 1 } }

/-- The session once the detector was asked. -/
def asked (session : Session) : Session := emitted (answer session).records (counted session)

theorem detect_bare (env : Environment) (onWindows : Bool) (version : Option Version) :
    ∀ record ∈ (Detection.detect env onWindows version).records, record.args = [] := by
  intro record member
  simp only [Detection.detect, Detection.explain] at member
  split at member
  · cases List.mem_singleton.mp member
    rfl
  · cases member

@[simp]
theorem outcome_update (change : Styler → Styler) (session : Session) :
    outcome (Styler.update change) session = (.ok (), { session with styler := change session.styler }) := rfl

theorem ask_run (session : Session) :
    outcome Styler.ask session = ((answer session).value.mapError .fault, asked session) := by
  obtain ⟨⟨detector, tier, detections⟩, world⟩ := session
  simp only [Styler.ask, outcome_bind, outcome_get, outcome_update, andThen_ok]
  cases detector with
  | script answers => rfl
  | environment =>
    have bare := detect_bare world.env world.platform.onWindows world.platform.version
    simp only [outcome_bind, outcome_world, andThen_ok]
    have noted := noted_run bare (counted ⟨⟨.environment, tier, detections⟩, world⟩)
    change andThen (outcome (Action.noted (Detection.detect world.env world.platform.onWindows world.platform.version))
      (counted ⟨⟨.environment, tier, detections⟩, world⟩)) _ = _
    rw [noted]
    simp only [answer, asked]
    cases (Detection.detect world.env world.platform.onWindows world.platform.version).value with
    | error fault => rfl
    | ok found => rfl

/-- The tier that asking would put in force. -/
def sounded (session : Session) : Except Fault Tier := (answer session).value.bind Tier.coerce

def settled (tier : Tier) (session : Session) : Session :=
  { session with styler := { session.styler with tier := some tier } }

/-- The same styler looks at the same things. -/
structure Alike (before after : Session) : Prop where
  styler : after.styler = before.styler
  env : after.world.env = before.world.env
  onWindows : after.world.platform.onWindows = before.world.platform.onWindows
  version : after.world.platform.version = before.world.platform.version

theorem Alike.ofLogged {before after : Session} (styler : after.styler = before.styler)
    (logged : Logged before.world after.world) : Alike before after := by
  refine ⟨styler, ?_, ?_, ?_⟩ <;> rw [logged.rest]

theorem Alike.sounded {before after : Session} (alike : Alike before after) : sounded after = sounded before := by
  unfold StylerRun.sounded answer
  rw [alike.styler]
  cases before.styler.detector with
  | script answers => rfl
  | environment =>
    dsimp only
    rw [alike.env, alike.onWindows, alike.version]

theorem level_kept {session : Session} {tier : Tier} (inForce : session.styler.tier = some tier) :
    outcome Styler.level session = (.ok tier, session) := by
  simp only [Styler.level, outcome_bind, outcome_get, andThen_ok, inForce, outcome_pure]

theorem level_sounded {session : Session} {tier : Tier} (unset : session.styler.tier = none)
    (found : sounded session = .ok tier) : outcome Styler.level session = (.ok tier, settled tier (asked session)) := by
  simp only [Styler.level, outcome_bind, outcome_get, andThen_ok, unset, ask_run]
  unfold sounded at found
  cases given : (answer session).value with
  | error fault =>
    rw [given] at found
    cases found
  | ok value =>
    rw [given] at found
    change Tier.coerce value = .ok tier at found
    simp only [mapError_ok, andThen_ok, outcome_lift, found, outcome_update, outcome_pure, settled]

theorem level_unsounded {session : Session} {fault : Fault} (unset : session.styler.tier = none)
    (refused : sounded session = .error fault) : outcome Styler.level session = (.error (.fault fault), asked session) := by
  simp only [Styler.level, outcome_bind, outcome_get, andThen_ok, unset, ask_run]
  unfold sounded at refused
  cases given : (answer session).value with
  | error cause =>
    rw [given] at refused
    cases refused
    rfl
  | ok value =>
    rw [given] at refused
    change Tier.coerce value = .error fault at refused
    simp only [mapError_ok, mapError_error, andThen_ok, outcome_lift, refused, andThen_error]

theorem level_logged (session : Session) : Logged session.world (outcome Styler.level session).2.world := by
  have told := emitted_logged (answer session).records (counted session)
  cases inForce : session.styler.tier with
  | some tier =>
    rw [level_kept inForce]
    exact Logged.refl _
  | none =>
    cases found : sounded session with
    | error fault =>
      rw [level_unsounded inForce found]
      exact told
    | ok tier =>
      rw [level_sounded inForce found]
      exact told

theorem level_returns {before after : Session} {tier : Tier} :
    Returns Styler.level before tier after ↔ (before.styler.tier = some tier ∧ after = before) ∨
      (before.styler.tier = none ∧ sounded before = .ok tier ∧ after = settled tier (asked before)) := by
  unfold Returns
  cases inForce : before.styler.tier with
  | some kept =>
    rw [level_kept inForce]
    simp [eq_comm]
  | none =>
    cases found : sounded before with
    | error fault => simp [level_unsounded inForce found]
    | ok sought =>
      rw [level_sounded inForce found]
      constructor
      · rintro ⟨rfl⟩
        exact Or.inr ⟨rfl, rfl, rfl⟩
      · rintro (⟨impossible, _⟩ | ⟨_, same, rfl⟩)
        · cases impossible
        · cases same
          rfl

theorem level_settles {before after : Session} {tier : Tier} (returned : Returns Styler.level before tier after) :
    after.styler.tier = some tier ∧ after.styler.detector = before.styler.detector ∧ Logged before.world after.world := by
  have logged := level_logged before
  rw [returned] at logged
  rcases level_returns.mp returned with ⟨inForce, rfl⟩ | ⟨_, _, rfl⟩
  · exact ⟨inForce, rfl, logged⟩
  · exact ⟨rfl, rfl, logged⟩

/-- The level that reading the tier comes to. -/
def reached (session : Session) : Except Fault Int :=
  (session.styler.tier.map fun tier => .ok tier.level).getD ((sounded session).map Tier.level)

theorem Alike.reached {before after : Session} (alike : Alike before after) : reached after = reached before := by
  rw [StylerRun.reached, alike.styler, alike.sounded, StylerRun.reached]

theorem level_reached {before after : Session} {tier : Tier} (returned : Returns Styler.level before tier after) :
    reached before = .ok tier.level := by
  rcases level_returns.mp returned with ⟨inForce, _⟩ | ⟨unset, found, _⟩
  · simp [reached, inForce]
  · simp [reached, unset, found, Except.map]

theorem reached_inForce {session : Session} {tier : Tier} (inForce : session.styler.tier = some tier) :
    reached session = .ok tier.level := by
  simp [reached, inForce]

theorem reached_settled (tier : Tier) (session : Session) : reached (settled tier session) = .ok tier.level := rfl

theorem setLevel_ok {value : Value} {tier : Tier} (read : Tier.coerce value = .ok tier) (session : Session) :
    outcome (Styler.setLevel value) session = (.ok (), settled tier session) := by
  simp only [Styler.setLevel, outcome_bind, outcome_lift, read, mapError_ok, andThen_ok, outcome_update, settled]

theorem setLevel_refused {value : Value} {fault : Fault} (refused : Tier.coerce value = .error fault) (session : Session) :
    outcome (Styler.setLevel value) session = (.error (.fault fault), session) := by
  simp only [Styler.setLevel, outcome_bind, outcome_lift, refused, mapError_error, andThen_error]

theorem setLevel_returns {value : Value} {before after : Session} :
    Returns (Styler.setLevel value) before () after ↔
      ∃ tier, Tier.coerce value = .ok tier ∧ after = settled tier before := by
  unfold Returns
  cases read : Tier.coerce value with
  | error fault => simp [setLevel_refused read]
  | ok tier => simp [setLevel_ok read, eq_comm]

def unset (session : Session) : Session := { session with styler := { session.styler with tier := none } }

/-- A result that went through the log: its value, in the session with the records let out. -/
def shown (result : Noted (Except Numeral.Error String)) (session : Session) : Except Failure String × Session :=
  (result.value.mapError fun error => .fault (.numeral error), emitted result.records session)

theorem rendered_run {result : Noted (Except Numeral.Error String)} (bare : ∀ record ∈ result.records, record.args = [])
    (session : Session) : outcome (Styler.rendered result) session = shown result session := by
  rw [Styler.rendered, noted_run bare, shown]
  cases result.value with
  | error error => rfl
  | ok text => rfl

theorem tokens_bare (tier : Int) (words : List String) :
    ∀ record ∈ (Compile.tokens tier words).records, record.args = [] := by
  have remarked (token : String) : ∀ record ∈ Compile.remarks token, record.args = [] := by
    intro record member
    unfold Compile.remarks at member
    split at member
    · cases List.mem_singleton.mp member
      rfl
    · cases List.mem_singleton.mp member
      rfl
    · cases member
  induction words with
  | nil => simp [Compile.tokens]
  | cons token words ih =>
    intro record member
    rw [Compile.tokens] at member
    split at member
    · exact remarked token record member
    · rcases List.mem_append.mp member with here | later
      · exact remarked token record here
      · exact ih record later

theorem text_bare (directives : String) (tier : Int) :
    ∀ record ∈ (Compile.text directives tier).records, record.args = [] := tokens_bare tier _

theorem expandParts_bare (tier : Int) (tail : List Char) (parts : List (List Char × List Char)) :
    ∀ record ∈ (Template.expandParts tier tail parts).records, record.args = [] := by
  induction parts with
  | nil => simp [Template.expandParts]
  | cons part rest ih =>
    obtain ⟨literal, directives⟩ := part
    intro record member
    rw [Template.expandParts] at member
    dsimp only at member
    split at member
    · exact text_bare _ tier record member
    · rcases List.mem_append.mp member with here | later
      · exact text_bare _ tier record here
      · exact ih record later

theorem expand_bare (template : Template) (tier : Int) : ∀ record ∈ (template.expand tier).records, record.args = [] :=
  expandParts_bare tier _ _

theorem compile_run (directives : String) (session : Session) :
    outcome (Styler.compile directives) session =
      andThen (outcome Styler.level session) fun tier => shown (Compile.text directives tier.level) := by
  simp only [Styler.compile, outcome_bind, rendered_run (text_bare _ _)]

theorem rawFormat_run (template : String) (session : Session) :
    outcome (Styler.rawFormat template) session =
      andThen (outcome Styler.level session) fun tier => shown ((Template.ofText template).expand tier.level) := by
  simp only [Styler.rawFormat, outcome_bind, rendered_run (expand_bare _ _)]

theorem rendered_returns {result : Noted (Except Numeral.Error String)} (bare : ∀ record ∈ result.records, record.args = [])
    {before after : Session} {text : String} :
    Returns (Styler.rendered result) before text after ↔
      result.value = .ok text ∧ after = emitted result.records before := by
  rw [Returns, rendered_run bare, shown]
  cases result.value with
  | error error => simp
  | ok found => simp [eq_comm]

section Returning

variable {before after : Session} {out : String}

theorem compile_returns {directives : String} :
    Returns (Styler.compile directives) before out after ↔ ∃ tier middle, Returns Styler.level before tier middle ∧
      (Compile.text directives tier.level).value = .ok out ∧
      after = emitted (Compile.text directives tier.level).records middle := by
  simp only [Styler.compile, returns_bind, rendered_returns (text_bare _ _)]

theorem rawFormat_returns {template : String} :
    Returns (Styler.rawFormat template) before out after ↔ ∃ tier middle, Returns Styler.level before tier middle ∧
      ((Template.ofText template).expand tier.level).value = .ok out ∧
      after = emitted ((Template.ofText template).expand tier.level).records middle := by
  simp only [Styler.rawFormat, returns_bind, rendered_returns (expand_bare _ _)]

theorem rawApply_returns {text : String} {groups : List String} :
    Returns (Styler.rawApply text groups) before out after ↔
      ∃ front, Returns (Styler.compile (" ".intercalate groups)) before front after ∧ out = front ++ text :=
  returns_map

theorem apply_returns {text : String} {groups : List String} :
    Returns (Styler.apply text groups) before out after ↔
      ∃ front, Returns (Styler.compile (" ".intercalate groups)) before front after ∧
        out = front ++ text ++ Sequence.reset.render := by
  rw [Styler.apply, returns_map]
  simp only [rawApply_returns]
  constructor
  · rintro ⟨_, ⟨front, run, rfl⟩, rfl⟩
    exact ⟨front, run, rfl⟩
  · rintro ⟨front, run, rfl⟩
    exact ⟨_, ⟨front, run, rfl⟩, rfl⟩

theorem format_interrupted {session : Session} (interrupting : session.world.interrupting = true) (template : String) :
    outcome (Styler.format template) session = (.error .interrupt, session) := by
  simp [Styler.format, interrupting]

theorem format_calm {session : Session} (calm : session.world.interrupting = false) (template : String) :
    outcome (Styler.format template) session =
      outcome (Styler.rawFormat template >>= fun body => pure (body ++ Sequence.reset.render)) session := by
  simp [Styler.format, calm]

theorem format_returns {template : String} :
    Returns (Styler.format template) before out after ↔ before.world.interrupting = false ∧
      ∃ body, Returns (Styler.rawFormat template) before body after ∧ out = body ++ Sequence.reset.render := by
  cases interrupting : before.world.interrupting with
  | true => simp [Returns, format_interrupted interrupting]
  | false =>
    rw [Returns, format_calm interrupting, eq_self_iff_true, true_and]
    exact returns_map

end Returning

/-- A styler with a tier in force, in a world without files, variables and handlers. -/
def plainSession (tier : Tier) : Session where
  styler := ⟨.environment, some tier, 0⟩
  world := {
    env := ⟨[]⟩
    store := .empty
    platform := .plain
    log := ⟨Level.warning, [], false, false, []⟩
    now := ⟨⟨2000, 1, 1⟩, 0, 0, 0, 0, none⟩
    origin := fun _ => .unknown
    terminal := false
    interrupting := false
    output := ""
    errors := ""
    journal := [] }

end TermStyle.Proofs.StylerRun
