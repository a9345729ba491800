import TermStyle.Log.Configure
import TermStyle.Proofs.StylerRun

/-! The logging through any calls, in any order, failed ones included. A configuration may break off anywhere and a
record may settle a formatter, but no call mixes the handlers up or lets them part from the threshold, and what is
configured stays so. -/

namespace TermStyle.Proofs.LoggingRun
open Log ActionRun Logging

structure IsConsole (level : Level) (handler : Handler) : Prop where
  level : handler.level = level
  sink : handler.sink = .console

structure IsFile (level : Level) (handler : Handler) : Prop where
  level : handler.level = level
  sink : ∃ path limit backups, handler.sink = .file path limit backups
  plain : handler.formatter.isColored = false

/-- One console handler at most, and behind it one file handler at most. All have the level. -/
def Assembled (level : Level) (handlers : List Handler) : Prop :=
  ∃ console file : Option Handler, handlers = console.toList ++ file.toList ∧
    (∀ handler ∈ console, IsConsole level handler) ∧ ∀ handler ∈ file, IsFile level handler

structure Coherent (setup : Setup) : Prop where
  assembled : Assembled setup.level setup.handlers
  apart : setup.configured = true → setup.propagate = false

/-- Nothing was configured yet. What threshold the family starts with and which loggers there are is left open. -/
structure Unconfigured (setup : Setup) : Prop where
  handlers : setup.handlers = []
  configured : setup.configured = false

theorem Assembled.nil (level : Level) : Assembled level [] := ⟨none, none, rfl, nofun, nofun⟩

theorem Unconfigured.coherent {setup : Setup} (unconfigured : Unconfigured setup) : Coherent setup := by
  refine ⟨?_, fun configured => ?_⟩
  · rw [unconfigured.handlers]
    exact Assembled.nil _
  · rw [unconfigured.configured] at configured
    cases configured

/-- The handler puts its lines where it did and does not become coloured; its level is the given one. -/
structure Follows (level : Level) (before after : Handler) : Prop where
  level : after.level = level
  sink : after.sink = before.sink
  plain : before.formatter.isColored = false → after.formatter.isColored = false

section Following

variable {level other : Level} {handler after : Handler}

theorem IsConsole.follow (console : IsConsole level handler) (follows : Follows other handler after) :
    IsConsole other after :=
  ⟨follows.level, follows.sink.trans console.sink⟩

theorem IsFile.follow (file : IsFile level handler) (follows : Follows other handler after) : IsFile other after :=
  ⟨follows.level, by rw [follows.sink]; exact file.sink, follows.plain file.plain⟩

theorem Assembled.follow {handlers others : List Handler} (assembled : Assembled level handlers)
    (follow : List.Forall₂ (Follows other) handlers others) : Assembled other others := by
  obtain ⟨console, file, rfl, isConsole, isFile⟩ := assembled
  cases console with
  | none =>
    cases file with
    | none =>
      cases follow
      exact Assembled.nil _
    | some file =>
      obtain ⟨later, _, follows, ⟨⟩, rfl⟩ := List.forall₂_cons_left_iff.mp follow
      exact ⟨none, some later, rfl, nofun, by simpa using (isFile file rfl).follow follows⟩
  | some console =>
    obtain ⟨first, _, follows, rest, rfl⟩ := List.forall₂_cons_left_iff.mp follow
    have isFirst : ∀ handler ∈ some first, IsConsole other handler := by
      simpa using (isConsole console rfl).follow follows
    cases file with
    | none =>
      cases rest
      exact ⟨some first, none, rfl, isFirst, nofun⟩
    | some file =>
      obtain ⟨later, _, follows, ⟨⟩, rfl⟩ := List.forall₂_cons_left_iff.mp rest
      exact ⟨some first, some later, rfl, isFirst, by simpa using (isFile file rfl).follow follows⟩

theorem Assembled.levels {handlers : List Handler} (assembled : Assembled level handlers) :
    ∀ handler ∈ handlers, handler.level = level := by
  obtain ⟨console, file, rfl, isConsole, isFile⟩ := assembled
  intro handler member
  rcases List.mem_append.mp member with first | second
  · exact (isConsole handler (Option.mem_toList.mp first)).level
  · exact (isFile handler (Option.mem_toList.mp second)).level

theorem settles_follows {before after : Handler} (settles : Settles before after) :
    Follows before.level before after := by
  refine ⟨settles.level, settles.sink, fun plain => ?_⟩
  rcases settles.formatter with same | ⟨format, tier, unsettled, _⟩
  · rw [same]
    exact plain
  · rw [unsettled] at plain
    cases plain

end Following

section Changes

variable {setup : Setup}

theorem Coherent.logged {before after : World} (coherent : Coherent before.log) (logged : Logged before after) :
    Coherent after.log := by
  have follow : List.Forall₂ (Follows before.log.level) before.log.handlers after.log.handlers := by
    have settled := (List.forall₂_and_left _ _).mpr ⟨coherent.assembled.levels, logged.handlers⟩
    exact settled.imp fun handler after ⟨level, settles⟩ => level ▸ settles_follows settles
  rw [logged.rest]
  exact ⟨coherent.assembled.follow follow, coherent.apart⟩

theorem Coherent.setLevel (coherent : Coherent setup) (level : Level) : Coherent (setup.setLevel level) := by
  refine ⟨coherent.assembled.follow ?_, coherent.apart⟩
  rw [Setup.setLevel, List.forall₂_map_right_iff, List.forall₂_same]
  exact fun handler _ => ⟨rfl, rfl, id⟩

theorem Coherent.setTier (coherent : Coherent setup) (tier : Whole) : Coherent (setup.setTier tier) := by
  refine ⟨coherent.assembled.follow ?_, coherent.apart⟩
  rw [Setup.setTier, List.forall₂_map_right_iff, List.forall₂_same]
  intro handler member
  refine ⟨coherent.assembled.levels handler member, rfl, fun plain => ?_⟩
  cases formatter : handler.formatter with
  | plain format => rfl
  | colored format tier => simp [formatter, Formatter.isColored] at plain

end Changes

/-! ## Configuring -/

def extended (store : Store) (added : Option Handler) (session : Session) : Session :=
  { session with world := { session.world with
      store, log := { session.world.log with handlers := session.world.log.handlers ++ added.toList } } }

/-- The session with other files, and with these handlers behind a threshold of its own. -/
def equipped (store : Store) (level : Level) (handlers : List Handler) (session : Session) : Session :=
  { session with world := { session.world with store, log := { session.world.log with level, handlers } } }

def concluded (session : Session) : Session :=
  { session with world := { session.world with
      log := { session.world.log with propagate := false, configured := true }.register Setup.logger } }

theorem extended_equipped (store other : Store) (level : Level) (handlers : List Handler) (added : Option Handler)
    (session : Session) : extended store added (equipped other level handlers session) =
      equipped store level (handlers ++ added.toList) session := rfl

theorem extended_none (session : Session) : extended session.world.store none session = session := by
  simp [extended]

/-- Whatever comes of the action, it adds at most one handler, and one that fits. -/
def Adds (fits : Handler → Prop) (action : Action Unit) : Prop :=
  ∀ session, ∃ result store added, (∀ handler ∈ added, fits handler) ∧
    outcome action session = (result, extended store added session)

section Adding

variable {fits : Handler → Prop}

theorem adds_nothing {action : Action Unit} {session : Session} {result : Except Failure Unit}
    (run : outcome action session = (result, session)) :
    ∃ result store added, (∀ handler ∈ added, fits handler) ∧
      outcome action session = (result, extended store added session) :=
  ⟨result, session.world.store, none, nofun, by rw [run, extended_none]⟩

theorem adds_add {handler : Handler} (fit : fits handler) : Adds fits (Setup.add handler) := by
  refine fun session => ⟨.ok (), session.world.store, some handler, ?_, rfl⟩
  rintro _ ⟨⟩
  exact fit

theorem adds_lift {result : Except Fault α} {next : α → Action Unit} (rest : ∀ value, Adds fits (next value)) :
    Adds fits (Action.lift result >>= next) := by
  intro session
  cases result with
  | error fault => exact adds_nothing (by rw [outcome_bind, outcome_lift]; rfl)
  | ok value =>
    rw [outcome_bind, outcome_lift]
    exact rest value session

theorem outcome_onStore_extended (change : Store.Change Unit) (session : Session) :
    outcome (Action.onStore change) session =
      ((change.on session.world.store).1.mapError fun error => .fault (.store error),
        extended (change.on session.world.store).2 none session) := by
  rw [outcome_onStore]
  simp [extended]

theorem adds_onStore {change : Store.Change Unit} {next : Action Unit} (rest : Adds fits next) :
    Adds fits (Action.onStore change >>= fun _ => next) := by
  intro session
  rw [outcome_bind, outcome_onStore_extended]
  cases change.on session.world.store with
  | mk result changed =>
    cases result with
    | error error => exact ⟨_, changed, none, nofun, rfl⟩
    | ok value =>
      obtain ⟨result, store, added, fit, run⟩ := rest (extended changed none session)
      refine ⟨result, store, added, fit, run.trans ?_⟩
      simp [extended]

theorem addConsole_adds (options : Options) (level : Level) (format : String) :
    Adds (IsConsole level) (Setup.addConsole options level format) :=
  adds_lift fun _ session => adds_add ⟨rfl, rfl⟩ session

theorem addFile_adds (options : Options) (level : Level) (format path : String) :
    Adds (IsFile level) (Setup.addFile options level format path) :=
  adds_onStore (adds_onStore (adds_lift fun _ => adds_add ⟨rfl, ⟨_, _, _, rfl⟩, rfl⟩))

end Adding

/-- At most one handler is added, one that fits. Behind that the action fails or goes on with the rest. -/
def Proceeds (fits : Handler → Prop) (action rest : Action Unit) : Prop :=
  ∀ session, ∃ store added, (∀ handler ∈ added, fits handler) ∧
    ((∃ failure, outcome action session = (.error failure, extended store added session)) ∨
      outcome action session = outcome rest (extended store added session))

theorem proceeds_refl {fits : Handler → Prop} (rest : Action Unit) : Proceeds fits rest rest :=
  fun session => ⟨session.world.store, none, nofun, .inr (by rw [extended_none])⟩

theorem Adds.proceeds {fits : Handler → Prop} {action : Action Unit} (adds : Adds fits action) (rest : Action Unit) :
    Proceeds fits (action >>= fun _ => rest) rest := by
  intro session
  obtain ⟨result, store, added, fit, run⟩ := adds session
  refine ⟨store, added, fit, ?_⟩
  rw [outcome_bind, run]
  cases result with
  | error failure => exact .inl ⟨failure, rfl⟩
  | ok value => exact .inr rfl

@[simp]
theorem outcome_change (change : Setup → Setup) (session : Session) : outcome (Setup.change change) session =
    (.ok (), { session with world := { session.world with log := change session.world.log } }) := rfl

section Stages

variable (options : Options) (level : Level) (format : String)

/-- What is left of a configuration once the handlers are there. -/
def concluding : Action Unit := do
  Setup.change ({ · with propagate := false, configured := true })
  Setup.change (·.register Setup.logger)
  Action.note [Setup.report options level]

/-- What is left once the console handler is there. -/
def filing : Action Unit :=
  match options.file.filter (!·.isEmpty) with
  | some path => do
    Setup.addFile options level format path
    concluding options level
  | none => concluding options level

/-- What is left once the old handlers are gone. -/
def consoling : Action Unit :=
  if options.console then do
    Setup.addConsole options level format
    filing options level format
  else filing options level format

theorem configure_stages : Setup.configure options = (do
    if (← Action.world).log.configured && !options.force then return
    let level ← Action.lift (Level.ofValue options.level)
    Setup.change ({ · with level, handlers := [] })
    consoling options level (options.format.getD Formatter.standard)) := rfl

theorem consoling_proceeds :
    Proceeds (IsConsole level) (consoling options level format) (filing options level format) := by
  unfold consoling
  split
  · exact (addConsole_adds options level format).proceeds _
  · exact proceeds_refl _

theorem filing_proceeds : Proceeds (IsFile level) (filing options level format) (concluding options level) := by
  unfold filing
  split
  next path named => exact (addFile_adds options level format path).proceeds _
  next => exact proceeds_refl _

end Stages

/-- Nothing that takes records as they are is ever set up, so noting is never refused. -/
theorem Assembled.unrefused {world : World} {level : Level} (assembled : Assembled level world.log.handlers)
    (record : Record) : world.refusal? record = none := by
  have unread : ∀ handler ∈ world.log.handlers, (handler.sink == .journal) = false := by
    obtain ⟨console, file, row, isConsole, isFile⟩ := assembled
    rw [row]
    intro handler member
    rcases List.mem_append.mp member with first | second
    · rw [(isConsole handler (Option.mem_toList.mp first)).sink]
      rfl
    · obtain ⟨path, limit, backups, sink⟩ := (isFile handler (Option.mem_toList.mp second)).sink
      rw [sink]
      rfl
  have none : (world.log.handlersOf record.logger).any
      (fun handler => handler.sink == .journal && !record.level.isBelow handler.level) = false := by
    rw [List.any_eq_false, Setup.handlersOf]
    intro handler member
    split at member
    · simp [unread handler member]
    · cases member
  simp only [World.refusal?, none, Bool.and_false, Bool.false_eq_true, if_false]

theorem concluding_returns {level : Level} {handlers : List Handler} (assembled : Assembled level handlers)
    (options : Options) (store : Store) (before : Session) :
    Returns (concluding options level) (equipped store level handlers before) ()
      (emitted [Setup.report options level] (concluded (equipped store level handlers before))) := by
  unfold Returns concluding
  simp only [outcome_bind, outcome_change, andThen_ok]
  rw [note_emitted (assembled.unrefused _)]
  rfl

/-- What a configuration comes to: nothing where there is one already, an unread severity, a break while the handlers
are added, or a logging of its own with a record about it. -/
inductive Configuring (options : Options) (before : Session) : Except Failure Unit × Session → Prop
  | kept (configured : before.world.log.configured = true) (unforced : options.force = false) :
    Configuring options before (.ok (), before)
  | refused {fault : Fault} (unread : Level.ofValue options.level = .error fault) :
    Configuring options before (.error (.fault fault), before)
  | broken {level : Level} {handlers : List Handler} (assembled : Assembled level handlers) (failure : Failure)
    (store : Store) : Configuring options before (.error failure, equipped store level handlers before)
  | done {level : Level} {handlers : List Handler} (assembled : Assembled level handlers) (store : Store) :
    Configuring options before
      (.ok (), emitted [Setup.report options level] (concluded (equipped store level handlers before)))

theorem configure_course (options : Options) (before : Session) :
    Configuring options before (outcome (Setup.configure options) before) := by
  rw [configure_stages, outcome_bind, outcome_world, andThen_ok]
  split
  next skip =>
    obtain ⟨configured, unforced⟩ := Bool.and_eq_true_iff.mp skip
    exact .kept configured (by simpa using unforced)
  next =>
    generalize options.format.getD Formatter.standard = format
    cases read : Level.ofValue options.level with
    | error fault =>
      rw [outcome_bind, outcome_lift]
      exact .refused read
    | ok level =>
      change Configuring options before
        (outcome (consoling options level format) (equipped before.world.store level [] before))
      obtain ⟨store, console, isConsole, first⟩ :=
        consoling_proceeds options level format (equipped before.world.store level [] before)
      rw [extended_equipped] at first
      rcases first with ⟨failure, broken⟩ | further
      · rw [broken]
        exact .broken ⟨console, none, by simp, isConsole, nofun⟩ failure store
      obtain ⟨store, file, isFile, second⟩ := filing_proceeds options level format (equipped store level console.toList before)
      rw [extended_equipped] at second
      have assembled : Assembled level (console.toList ++ file.toList) := ⟨console, file, rfl, isConsole, isFile⟩
      rw [further]
      rcases second with ⟨failure, broken⟩ | further
      · rw [List.nil_append, broken]
        exact .broken assembled failure store
      · rw [List.nil_append, further, concluding_returns assembled]
        exact .done assembled store

/-! ## Any calls -/

inductive Call
  | configure (options : Options)
  | getLogger (name : String)
  | log (name : String) (level : Value) (text : String) (args : List Value)
  /-- Records of loggers that were handed out before. -/
  | note (records : List Record)
  | restrict (level : Value)
  | paint (tier : Value)
  /-- Anything that happens to the rest of the world between two calls. -/
  | meanwhile (change : World → World)

def Call.perform : Call → Action Unit
  | .configure options => Setup.configure options
  | .getLogger name => do let _ ← Setup.getLogger name
  | .log name level text args => Setup.log name level text args
  | .note records => Action.note records
  | .restrict level => Setup.restrict level
  | .paint tier => Setup.paint tier
  | .meanwhile change => Action.inWorld fun world => { change world with log := world.log }

/-- Makes one call after the other. A call that fails leaves what it did and does not end the run. -/
def run (calls : List Call) (session : Session) : Session :=
  calls.foldl (fun session call => (outcome call.perform session).2) session

theorem run_append (earlier later : List Call) (session : Session) :
    run (earlier ++ later) session = run later (run earlier session) := List.foldl_append

/-- The handlers stay in order and what is configured stays so. -/
structure Keeps (before after : Session) : Prop where
  coherent : Coherent before.world.log → Coherent after.world.log
  configured : before.world.log.configured = true → after.world.log.configured = true

instance : IsPreorder Session Keeps where
  refl _ := ⟨id, id⟩
  trans _ _ _ first second := ⟨second.coherent ∘ first.coherent, second.configured ∘ first.configured⟩

theorem Keeps.ofLogged {before after : Session} (logged : Logged before.world after.world) : Keeps before after := by
  refine ⟨fun coherent => coherent.logged logged, fun configured => ?_⟩
  rw [logged.rest]
  exact configured

theorem note_keeps (records : List Record) : Leads Keeps (Action.note records) :=
  fun session => .ofLogged (note_logged records session).2

theorem change_keeps {change : Setup → Setup} (coherent : ∀ setup, Coherent setup → Coherent (change setup))
    (configured : ∀ setup, (change setup).configured = setup.configured) : Leads Keeps (Setup.change change) :=
  fun session => ⟨coherent session.world.log, (configured session.world.log).trans⟩

theorem configure_keeps (options : Options) : Leads Keeps (Setup.configure options) := by
  intro before
  have course := configure_course options before
  generalize outcome (Setup.configure options) before = ended at course ⊢
  cases course with
  | kept | refused => exact refl before
  | broken assembled failure store => exact ⟨fun coherent => ⟨assembled, coherent.apart⟩, id⟩
  | done assembled store =>
    have concluded : Keeps before (concluded (equipped store _ _ before)) :=
      ⟨fun _ => ⟨assembled, fun _ => rfl⟩, fun _ => rfl⟩
    exact IsTrans.trans _ _ _ concluded (.ofLogged (emitted_logged _ _))

theorem getLogger_keeps (name : String) : Leads Keeps (Setup.getLogger name) := by
  have registering : Leads Keeps do
      Setup.change (·.register (Setup.loggerName name))
      return Setup.loggerName name :=
    leads_bind (change_keeps (fun _ coherent => ⟨coherent.assembled, coherent.apart⟩) fun _ => rfl) fun _ => leads_pure _
  refine leads_bind leads_world fun world => ?_
  split
  · exact leads_bind (configure_keeps _) fun _ => registering
  · exact registering

theorem perform_keeps (call : Call) : Leads Keeps call.perform := by
  cases call with
  | configure options => exact configure_keeps options
  | getLogger name => exact leads_bind (getLogger_keeps name) fun _ => leads_pure _
  | log name level text args =>
    exact leads_bind (getLogger_keeps name) fun logger => leads_bind (leads_lift _) fun level => note_keeps _
  | note records => exact note_keeps records
  | restrict level =>
    exact leads_bind (leads_lift _) fun level => change_keeps (fun _ coherent => coherent.setLevel level) fun _ => rfl
  | paint tier =>
    refine leads_bind leads_world fun world => ?_
    split
    · exact leads_bind (leads_lift _) fun tier => change_keeps (fun _ coherent => coherent.setTier tier) fun _ => rfl
    · exact leads_pure _
  | meanwhile change => exact fun session => ⟨id, id⟩

theorem run_keeps (calls : List Call) (session : Session) : Keeps session (run calls session) := by
  induction calls generalizing session with
  | nil => exact refl session
  | cons call rest ih => exact IsTrans.trans _ _ _ (perform_keeps call session) (ih (outcome call.perform session).2)

theorem configure_unforced {options : Options} (unforced : options.force = false) {session : Session}
    (configured : session.world.log.configured = true) :
    outcome (Setup.configure options) session = (.ok (), session) := by
  rw [Setup.configure, outcome_bind, outcome_world, andThen_ok, configured, unforced]
  rfl

theorem restrict_failed {level : Value} {failure : Failure} {before after : Session}
    (failed : outcome (Setup.restrict level) before = (.error failure, after)) : after = before := by
  rw [Setup.restrict, outcome_bind, outcome_lift] at failed
  cases read : Level.ofValue level with
  | error fault =>
    rw [read] at failed
    exact (Prod.mk.inj failed).2.symm
  | ok level =>
    rw [read] at failed
    cases failed

/-- However the logging is called from the start on, its handlers stay in order: at most a console and behind it at most
a file, which is never coloured, all at the threshold of the family. From the first call that configures it on it stays
configured and takes no part in other logging. Another configuration without force and a threshold that cannot be read
change nothing at all. -/
theorem logging_kept_in_order {session : Session} (unconfigured : Unconfigured session.world.log) (calls : List Call) :
    Coherent (run calls session).world.log ∧
      (∀ earlier, earlier <+: calls → (run earlier session).world.log.configured = true →
        (run calls session).world.log.configured = true ∧ (run calls session).world.log.propagate = false) ∧
      ((run calls session).world.log.configured = true → ∀ options, options.force = false →
        outcome (Setup.configure options) (run calls session) = (.ok (), run calls session)) ∧
      ∀ level failure after, outcome (Setup.restrict level) (run calls session) = (.error failure, after) →
        after = run calls session := by
  have coherent := (run_keeps calls session).coherent unconfigured.coherent
  refine ⟨coherent, ?_, fun configured options unforced => configure_unforced unforced configured,
    fun level failure after failed => restrict_failed failed⟩
  rintro earlier ⟨later, rfl⟩ configured
  have still : (run (earlier ++ later) session).world.log.configured = true := by
    rw [run_append]
    exact (run_keeps later _).configured configured
  exact ⟨still, coherent.apart still⟩

def fresh : Session :=
  let plain := StylerRun.plainSession .none
  { plain with world := { plain.world with log := ⟨Level.notSet, [], true, false, []⟩ } }

/-- A severity that cannot be read, a format without a field, a configuration with two handlers that is asked for again
without force, a new threshold, and one that cannot be read. -/
private def stumbling : List Call :=
  let filed := { Options.standard with level := .int 30, format := some "%(message)s", file := some "a.log" }
  [.restrict (.text "loud"), .configure { filed with format := some "none" }, .configure filed,
    .configure { filed with console := false }, .getLogger "app", .restrict (.int 40), .restrict .null, .paint (.int 2)]

private theorem stumbling_run :
    (run (stumbling.take 3) fresh).world.log.configured = true ∧
      (run stumbling fresh).world.log.handlers.map (fun handler => (handler.level.number, handler.sink)) =
        [(40, .console), (40, .file "a.log" 10485760 3)] := by decide +kernel

theorem logging_kept_in_order_stumbling :
    Unconfigured fresh.world.log ∧ Coherent (run stumbling fresh).world.log ∧
      (run stumbling fresh).world.log.handlers.map (fun handler => (handler.level.number, handler.sink)) =
        [(40, .console), (40, .file "a.log" 10485760 3)] ∧
      (run stumbling fresh).world.log.configured = true ∧ (run stumbling fresh).world.log.propagate = false ∧
      outcome (Setup.configure .standard) (run stumbling fresh) = (.ok (), run stumbling fresh) := by
  have unconfigured : Unconfigured fresh.world.log := ⟨rfl, rfl⟩
  obtain ⟨configured, handlers⟩ := stumbling_run
  obtain ⟨coherent, stays, unforced, _⟩ := logging_kept_in_order unconfigured stumbling
  obtain ⟨still, apart⟩ := stays (stumbling.take 3) (List.take_prefix 3 stumbling) configured
  exact ⟨unconfigured, coherent, handlers, still, apart, unforced still Options.standard rfl⟩

end TermStyle.Proofs.LoggingRun
