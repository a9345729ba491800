import TermStyle.Proofs.LoggingRun
import TermStyle.Proofs.SavedFile

/-! A configuration that fails. The severity is read before anything is changed; from there on the threshold is the new
one and the old handlers are gone, and at each place where the configuration can break off it leaves behind what was set
up so far. -/

namespace TermStyle.Proofs.BrokenConfiguration
open Log ActionRun ExceptSteps LoggingRun SavedFile

/-- The action breaks off with the failure and leaves the second session. -/
def Stops (action : Action α) (before : Session) (failure : Failure) (after : Session) : Prop :=
  outcome action before = (.error failure, after)

section Stopping

variable {action : Action α} {before after middle : Session} {failure : Failure} {value : α}

theorem Stops.unreturned (stops : Stops action before failure after) : ¬ Returns action before value middle := by
  intro returned
  cases stops.symm.trans returned

theorem stops_bind {next : α → Action β} : Stops (action >>= next) before failure after ↔
    Stops action before failure after ∨
      ∃ value middle, Returns action before value middle ∧ Stops (next value) middle failure after := by
  unfold Stops Returns
  rw [outcome_bind]
  cases outcome action before with
  | mk result middle =>
    cases result with
    | error cause => simp
    | ok value => simp

theorem stops_behind {next : α → Action β} (first : Returns action before value middle) :
    Stops (action >>= next) before failure after ↔ Stops (next value) middle failure after := by
  unfold Stops
  rw [outcome_behind first]

theorem stops_pure : ¬ Stops (pure value) before failure after := nofun

theorem stops_lift {result : Except Fault α} : Stops (Action.lift result) before failure after ↔
    ∃ fault, result = .error fault ∧ failure = .fault fault ∧ after = before := by
  rw [Stops, outcome_lift]
  cases result with
  | error fault => simp [eq_comm]
  | ok value => simp

theorem stops_onStore {change : Store.Change Unit} : Stops (Action.onStore change) before failure after ↔
    ∃ error store, change.on before.world.store = (.error error, store) ∧ failure = .fault (.store error) ∧
      after = extended store none before := by
  rw [Stops, outcome_onStore_extended]
  cases change.on before.world.store with
  | mk result store =>
    cases result with
    | error error => simp [eq_comm]
    | ok done => simp

theorem returns_onStore_extended {change : Store.Change Unit} : Returns (Action.onStore change) before () after ↔
    ∃ store, change.on before.world.store = (.ok (), store) ∧ after = extended store none before := by
  simp [returns_onStore, extended]

end Stopping

/-! ## Adding the handlers -/

def consoleHandler (options : Options) (level : Level) (terminal : Bool) (format : String) : Handler :=
  ⟨level, if options.colored && terminal then .colored format options.tier else .plain format, .console⟩

/-- The console handler that a configuration sets up, if it gets so far. -/
def seat (options : Options) (level : Level) (format : String) (terminal : Bool) : Option Handler :=
  if options.console then (Formatter.checked format).toOption.map (consoleHandler options level terminal) else none

def placeOf (path : String) : String := (Store.Path.ofText path).settled.text

/-- How setting up a file breaks off, with the files that are left: its directory cannot be made, it cannot be opened, or
the format is of no use. -/
inductive Unfiled (format path : String) (store : Store) : Failure → Store → Prop
  | directory {error : Store.Error} {left : Store} (failed : (Store.ensureParent path).on store = (.error error, left)) :
      Unfiled format path store (.fault (.store error)) left
  | file {error : Store.Error} {left : Store} (made : (Store.ensureParent path).on store = (.ok (), left))
      (failed : left.touch (placeOf path) = .error error) : Unfiled format path store (.fault (.store error)) left
  | format {middle left : Store} {fault : Fault} (made : (Store.ensureParent path).on store = (.ok (), middle))
      (opened : middle.touch (placeOf path) = .ok left) (unfit : Formatter.checked format = .error fault) :
      Unfiled format path store (.fault fault) left

/-- How setting up the handlers breaks off: at the console, or behind it at the file. -/
inductive Breaks (options : Options) (format : String) (store : Store) : Failure → Store → Prop
  | console {fault : Fault} (wanted : options.console = true) (unfit : Formatter.checked format = .error fault) :
      Breaks options format store (.fault fault) store
  | file {path : String} {failure : Failure} {left : Store}
      (seated : options.console = true → ∃ fit, Formatter.checked format = .ok fit)
      (named : options.file.filter (!·.isEmpty) = some path) (unfiled : Unfiled format path store failure left) :
      Breaks options format store failure left

section Handlers

variable {options : Options} {level : Level} {format path : String} {before after : Session} {failure : Failure}

theorem addConsole_refused {fault : Fault} (unfit : Formatter.checked format = .error fault) (before : Session) :
    outcome (Setup.addConsole options level format) before = (.error (.fault fault), before) := by
  rw [Setup.addConsole, outcome_bind, outcome_lift, unfit]
  rfl

theorem addConsole_returns {fit : String} (checked : Formatter.checked format = .ok fit) (before : Session) :
    Returns (Setup.addConsole options level format) before ()
      (extended before.world.store (some (consoleHandler options level before.world.terminal fit)) before) := by
  rw [Returns, Setup.addConsole, outcome_bind, outcome_lift, checked]
  rfl

theorem touch_stops : Stops (Action.onStore (.once (·.touch path))) before failure after ↔
    ∃ error, before.world.store.touch path = .error error ∧ failure = .fault (.store error) ∧ after = before := by
  rw [stops_onStore, once_on]
  cases before.world.store.touch path with
  | error error => simp [extended_none]
  | ok left => simp

theorem touch_returns : Returns (Action.onStore (.once (·.touch path))) before () after ↔
    ∃ left, before.world.store.touch path = .ok left ∧ after = extended left none before := by
  rw [returns_onStore_extended, once_on]
  cases before.world.store.touch path with
  | error error => simp
  | ok left => simp

theorem extended_again (store other : Store) (session : Session) :
    extended store none (extended other none session) = extended store none session := by simp [extended]

theorem addFile_stages : Setup.addFile options level format path = (do
    Action.onStore (Store.ensureParent path)
    Action.onStore (.once (·.touch (placeOf path)))
    let fit ← Action.lift (Formatter.checked format)
    Setup.add ⟨level, .plain fit, .file (placeOf path) options.limit options.backups⟩) := rfl

theorem addFile_stops : Stops (Setup.addFile options level format path) before failure after ↔
    ∃ left, Unfiled format path before.world.store failure left ∧ after = extended left none before := by
  rw [addFile_stages]
  constructor
  · intro stops
    rcases stops_bind.mp stops with undone | ⟨_, middle, first, stops⟩
    · obtain ⟨error, left, failed, rfl, rfl⟩ := stops_onStore.mp undone
      exact ⟨left, .directory failed, rfl⟩
    obtain ⟨directed, made, rfl⟩ := returns_onStore_extended.mp first
    rcases stops_bind.mp stops with unopened | ⟨_, middle, second, stops⟩
    · obtain ⟨error, failed, rfl, rfl⟩ := touch_stops.mp unopened
      exact ⟨directed, .file made failed, rfl⟩
    obtain ⟨left, opened, rfl⟩ := touch_returns.mp second
    rcases stops_bind.mp stops with refused | ⟨_, _, _, added⟩
    · obtain ⟨fault, unfit, rfl, rfl⟩ := stops_lift.mp refused
      exact ⟨left, .format made opened unfit, extended_again _ _ _⟩
    · cases added
  · rintro ⟨left, unfiled, rfl⟩
    cases unfiled with
    | directory failed =>
      exact stops_bind.mpr (.inl (stops_onStore.mpr ⟨_, _, failed, rfl, rfl⟩))
    | @file _ left made failed =>
      have directed : Returns (Action.onStore (Store.ensureParent path)) before () (extended left none before) :=
        returns_onStore_extended.mpr ⟨left, made, rfl⟩
      exact (stops_behind directed).mpr (stops_bind.mpr (.inl (touch_stops.mpr ⟨_, failed, rfl, rfl⟩)))
    | @format middle left fault made opened unfit =>
      have directed : Returns (Action.onStore (Store.ensureParent path)) before () (extended middle none before) :=
        returns_onStore_extended.mpr ⟨middle, made, rfl⟩
      have touched : Returns (Action.onStore (.once (·.touch (placeOf path)))) (extended middle none before) ()
          (extended left none (extended middle none before)) := touch_returns.mpr ⟨left, opened, rfl⟩
      rw [stops_behind directed, stops_behind touched]
      exact stops_bind.mpr (.inl (stops_lift.mpr ⟨fault, unfit, rfl, (extended_again _ _ _).symm⟩))

end Handlers

section Configuration

variable {options : Options} {level : Level} {format : String} {store : Store} {before after : Session} {failure : Failure}

theorem filing_stops {console : Option Handler} (isConsole : ∀ handler ∈ console, IsConsole level handler) :
    Stops (filing options level format) (equipped store level console.toList before) failure after ↔
      ∃ left, (∃ path, options.file.filter (!·.isEmpty) = some path ∧ Unfiled format path store failure left) ∧
        after = equipped left level console.toList before := by
  unfold filing
  cases named : options.file.filter (!·.isEmpty) with
  | none =>
    have assembled : Assembled level console.toList := ⟨console, none, by simp, isConsole, nofun⟩
    constructor
    · intro stops
      exact absurd (concluding_returns assembled options store before) stops.unreturned
    · rintro ⟨_, ⟨_, ⟨⟩, _⟩, _⟩
  | some path =>
    have same (left : Store) : extended left none (equipped store level console.toList before) =
        equipped left level console.toList before := by simp [extended_equipped]
    constructor
    · intro stops
      rcases stops_bind.mp stops with early | ⟨_, middle, filed, stops⟩
      · obtain ⟨left, unfiled, rfl⟩ := addFile_stops.mp early
        exact ⟨left, ⟨path, rfl, unfiled⟩, same left⟩
      · -- With both handlers in place nothing can go wrong any more.
        obtain ⟨_, left, file, isFile, added⟩ := addFile_adds options level format path (equipped store level console.toList before)
        obtain rfl := (Prod.mk.inj (added.symm.trans filed)).2
        have assembled : Assembled level (console.toList ++ file.toList) := ⟨console, file, rfl, isConsole, isFile⟩
        rw [extended_equipped] at stops
        exact absurd (concluding_returns assembled options left before) stops.unreturned
    · rintro ⟨left, ⟨_, ⟨⟩, unfiled⟩, rfl⟩
      exact stops_bind.mpr (.inl (addFile_stops.mpr ⟨left, unfiled, (same left).symm⟩))

theorem seat_isConsole (terminal : Bool) : ∀ handler ∈ seat options level format terminal, IsConsole level handler := by
  intro handler member
  unfold seat at member
  split at member
  · obtain ⟨fit, _, rfl⟩ := Option.map_eq_some_iff.mp member
    exact ⟨rfl, rfl⟩
  · cases member

theorem breaks_seated {left : Store} (seated : options.console = true → ∃ fit, Formatter.checked format = .ok fit) :
    Breaks options format store failure left ↔
      ∃ path, options.file.filter (!·.isEmpty) = some path ∧ Unfiled format path store failure left := by
  constructor
  · intro breaks
    cases breaks with
    | console wanted unfit =>
      obtain ⟨_, fit⟩ := seated wanted
      cases fit.symm.trans unfit
    | file _ named unfiled => exact ⟨_, named, unfiled⟩
  · rintro ⟨path, named, unfiled⟩
    exact .file seated named unfiled

theorem consoling_stops : Stops (consoling options level format) (equipped store level [] before) failure after ↔
    ∃ left, Breaks options format store failure left ∧
      after = equipped left level (seat options level format before.world.terminal).toList before := by
  have sits := @seat_isConsole options level format before.world.terminal
  unfold consoling
  cases console : options.console with
  | false =>
    have empty : seat options level format before.world.terminal = none := by simp [seat, console]
    rw [empty] at sits ⊢
    have silent : options.console = true → ∃ fit, Formatter.checked format = .ok fit := by simp [console]
    simp only [breaks_seated silent]
    exact filing_stops sits
  | true =>
    rw [if_pos rfl]
    cases checked : Formatter.checked format with
    | error fault =>
      have empty : seat options level format before.world.terminal = none := by simp [seat, checked, Except.toOption]
      have refused := @addConsole_refused options level format fault checked (equipped store level [] before)
      rw [empty]
      constructor
      · intro stops
        rcases stops_bind.mp stops with early | ⟨_, _, added, _⟩
        · cases refused.symm.trans early
          exact ⟨store, .console console checked, rfl⟩
        · cases refused.symm.trans added
      · rintro ⟨left, breaks, rfl⟩
        cases breaks with
        | console _ unfit =>
          cases checked.symm.trans unfit
          exact stops_bind.mpr (.inl refused)
        | file seated =>
          obtain ⟨_, fit⟩ := seated console
          cases checked.symm.trans fit
    | ok fit =>
      have seated : seat options level format before.world.terminal =
          some (consoleHandler options level before.world.terminal fit) := by
        simp [seat, console, checked, Except.toOption]
      have added := @addConsole_returns options level format fit checked (equipped store level [] before)
      rw [stops_behind added, extended_equipped, List.nil_append]
      rw [seated] at sits ⊢
      simp only [breaks_seated fun _ => ⟨fit, checked⟩]
      exact filing_stops sits

def formatOf (options : Options) : String := options.format.getD Formatter.standard

/-- How a configuration fails, and what it leaves: all as it was if the severity cannot be read, and else a threshold of
its own with no more than a console handler. -/
inductive Failing (options : Options) (before : Session) : Failure → Session → Prop
  | severity {fault : Fault} (unread : Level.ofValue options.level = .error fault) :
      Failing options before (.fault fault) before
  | broken {level : Level} {failure : Failure} {left : Store} (read : Level.ofValue options.level = .ok level)
      (breaks : Breaks options (formatOf options) before.world.store failure left) :
      Failing options before failure
        (equipped left level (seat options level (formatOf options) before.world.terminal).toList before)

theorem clearing (level : Level) (before : Session) : Returns (Setup.change ({ · with level, handlers := [] })) before ()
    (equipped before.world.store level [] before) := outcome_change _ _

theorem configure_stops : Stops (Setup.configure options) before failure after ↔
    (before.world.log.configured = true → options.force = true) ∧ Failing options before failure after := by
  have world : Returns Action.world before before.world before := outcome_world before
  rw [configure_stages, stops_behind world]
  cases skips : before.world.log.configured && !options.force with
  | true =>
    rw [if_pos rfl]
    obtain ⟨configured, unforced⟩ := Bool.and_eq_true_iff.mp skips
    constructor
    · exact fun stops => absurd stops stops_pure
    · rintro ⟨forced, _⟩
      rw [forced configured] at unforced
      cases unforced
  | false =>
    have due : before.world.log.configured = true → options.force = true := by
      intro configured
      simpa [configured] using skips
    rw [if_neg Bool.false_ne_true]
    constructor
    · intro stops
      refine ⟨due, ?_⟩
      rcases stops_bind.mp stops with refused | ⟨level, _, accepted, further⟩
      · obtain ⟨fault, unread, rfl, rfl⟩ := stops_lift.mp refused
        exact .severity unread
      · obtain ⟨read, rfl⟩ := returns_lift.mp accepted
        rw [stops_behind (clearing level _)] at further
        obtain ⟨left, breaks, rfl⟩ := consoling_stops.mp further
        exact .broken read breaks
    · rintro ⟨_, failing⟩
      cases failing with
      | severity unread => exact stops_bind.mpr (.inl (stops_lift.mpr ⟨_, unread, rfl, rfl⟩))
      | @broken level _ _ read breaks =>
        rw [stops_behind (returns_lift.mpr ⟨read, rfl⟩), stops_behind (clearing level before)]
        exact consoling_stops.mpr ⟨_, breaks, rfl⟩

/-- A configuration that fails leaves the logging as it was exactly if the severity cannot be read, or if what is set up
until it breaks off happens to be what was there: the same threshold, and the console handler alone or none. Whether the
logging takes part in other logging and counts as configured is never touched. -/
theorem failed_configure_keeps_iff (failed : outcome (Setup.configure options) before = (.error failure, after)) :
    Failing options before failure after ∧
    (after.world.log = before.world.log ↔ (∃ fault, Level.ofValue options.level = .error fault) ∨
      ∃ level, Level.ofValue options.level = .ok level ∧ before.world.log.level = level ∧
        before.world.log.handlers = (seat options level (formatOf options) before.world.terminal).toList) ∧
    after.world.log = { before.world.log with level := after.world.log.level, handlers := after.world.log.handlers } := by
  have failing := (configure_stops.mp failed).2
  refine ⟨failing, ?_, ?_⟩
  · cases failing with
    | severity unread => exact iff_of_true rfl (.inl ⟨_, unread⟩)
    | @broken level _ _ read breaks =>
      constructor
      · intro same
        exact .inr ⟨level, read, congrArg Setup.level same.symm, congrArg Setup.handlers same.symm⟩
      · rintro (⟨fault, unread⟩ | ⟨_, other, rfl, handlers⟩)
        · cases read.symm.trans unread
        · cases read.symm.trans other
          rw [← handlers]
          rfl
  · cases failing with
    | severity => rfl
    | broken => rfl

end Configuration

def renewed : Options := { Options.standard with force := true }

def inUse : Session := run [.configure .standard] fresh

private theorem inUse_log : inUse.world.log.configured = true ∧
    inUse.world.log.handlers.map (fun handler => (handler.level.number, handler.sink)) = [(30, .console)] := by decide +kernel

theorem failed_configure_keeps_unread : ∃ after,
    outcome (Setup.configure { renewed with level := .text "loud" }) inUse = (.error (.fault (.noLogLevel "LOUD")), after) ∧
    after.world.log = inUse.world.log := by
  have unread : Level.ofValue (.text "loud") = .error (.noLogLevel "LOUD") := rfl
  have failing : Failing { renewed with level := .text "loud" } inUse (.fault (.noLogLevel "LOUD")) inUse := .severity unread
  have failed := configure_stops.mpr ⟨fun _ => rfl, failing⟩
  exact ⟨inUse, failed, (failed_configure_keeps_iff failed).2.1.mpr (.inl ⟨_, unread⟩)⟩

/-- A format that names no field costs a logging in use its handlers. -/
theorem failed_configure_clears : inUse.world.log.configured = true ∧
    inUse.world.log.handlers.map (fun handler => (handler.level.number, handler.sink)) = [(30, .console)] ∧
    ∃ after, outcome (Setup.configure { renewed with format := some "none" }) inUse =
        (.error (.fault (.logFormat "none")), after) ∧
      after.world.log.configured = true ∧ after.world.log.handlers = [] := by
  obtain ⟨configured, handlers⟩ := inUse_log
  have read : Level.ofValue (.text "WARNING") = .ok Level.warning := rfl
  have unfit : Formatter.checked "none" = .error (.logFormat "none") := rfl
  exact ⟨configured, handlers, _, configure_stops.mpr ⟨fun _ => rfl, .broken read (.console rfl unfit)⟩, configured, rfl⟩

end TermStyle.Proofs.BrokenConfiguration
