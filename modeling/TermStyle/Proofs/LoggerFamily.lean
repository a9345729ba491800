import TermStyle.Proofs.LoggingRun

/-! Which loggers the configuration governs. A logger is one of the family by its place below it, and that place hangs on
a dot: a name that only starts like the family's is none of it. What is logged through one of the family reaches the
console, what is logged through another does not. -/

namespace TermStyle.Proofs.LoggerFamily
open Log ActionRun Logging LoggingRun

/-! ## Names -/

/-- The logger is the family's own, or a dot in its name divides the family's name from the rest. -/
def Within (logger : String) : Prop := logger = Setup.family ∨ (Setup.family ++ ".").toList <+: logger.toList

abbrev Doubled (name : List Char) : Prop := ['.', '.'] <:+: name

section Names

variable {known : List Char → Bool} {backwards : List Char} {setup : Setup} {logger : String}

private abbrev familyBackwards : List Char := Setup.family.toList.reverse

theorem below_of_descends (descends : Setup.descends known backwards = true) : '.' :: familyBackwards <:+ backwards := by
  induction backwards using Setup.descends.induct known with
  | case1 c rest there ih =>
    rw [Setup.descends, if_pos there, Bool.or_eq_true] at descends
    rcases descends with top | further
    · exact List.suffix_cons_iff.mpr (.inl (by rw [eq_of_beq top]))
    · exact (ih further).trans (List.suffix_cons _ _)
  | case2 c rest absent ih =>
    rw [Setup.descends, if_neg absent] at descends
    exact ((ih descends).trans (List.suffix_cons _ _)).trans (List.suffix_cons _ _)
  | case3 c rest other ih =>
    rw [Setup.descends] at descends
    · exact (ih descends).trans (List.suffix_cons _ _)
    · exact other
  | case4 => cases descends

/-- Where no two dots follow each other, every dot is looked at. -/
theorem descends_of_below (top : known familyBackwards = true) (single : ¬ Doubled backwards)
    (below : '.' :: familyBackwards <:+ backwards) : Setup.descends known backwards = true := by
  induction backwards using Setup.descends.induct known with
  | case1 c rest there ih =>
    rw [Setup.descends, if_pos there, Bool.or_eq_true]
    rcases List.suffix_cons_iff.mp below with same | inside
    · exact .inl (beq_iff_eq.mpr (List.cons.inj same).2.symm)
    · exact .inr (ih (fun doubled => single (doubled.trans (List.suffix_cons _ _).isInfix)) inside)
  | case2 c rest absent ih =>
    rw [Setup.descends, if_neg absent]
    rcases List.suffix_cons_iff.mp below with same | inside
    · rw [← (List.cons.inj same).2] at absent
      exact absurd top absent
    rcases List.suffix_cons_iff.mp inside with same | inside
    · rw [← (List.cons.inj same).1] at single
      exact absurd ⟨[], rest, rfl⟩ single
    · exact ih (fun doubled => single ((doubled.trans (List.suffix_cons _ _).isInfix).trans
        (List.suffix_cons _ _).isInfix)) inside
  | case3 c rest other ih =>
    rw [Setup.descends]
    · rcases List.suffix_cons_iff.mp below with same | inside
      · obtain ⟨rfl, rfl⟩ := List.cons.inj same
        exact absurd rfl (other _ _ rfl)
      · exact ih (fun doubled => single (doubled.trans (List.suffix_cons _ _).isInfix)) inside
    · exact other
  | case4 => exact absurd below (by simp)

/-- Only about names that are shorter is it asked whether they are known. -/
theorem descends_congr {other : List Char → Bool}
    (same : ∀ shorter : List Char, shorter.length < backwards.length → known shorter = other shorter) :
    Setup.descends known backwards = Setup.descends other backwards := by
  induction backwards using Setup.descends.induct known with
  | case1 c rest there ih =>
    have also : other (c :: rest) = true := (same _ (by simp)).symm.trans there
    rw [Setup.descends, if_pos there, Setup.descends, if_pos also,
      ih fun shorter less => same shorter (Nat.lt_succ_of_lt less)]
  | case2 c rest absent ih =>
    have also : ¬ other (c :: rest) = true := by rwa [← same _ (by simp)]
    rw [Setup.descends, if_neg absent, Setup.descends, if_neg also,
      ih fun shorter less => same shorter (Nat.lt_succ_of_lt (Nat.lt_succ_of_lt less))]
  | case3 c rest different ih =>
    rw [Setup.descends, Setup.descends, ih fun shorter less => same shorter (Nat.lt_succ_of_lt less)]
    · exact different
    · exact different
  | case4 => rfl

theorem within_iff : Within logger ↔ logger = Setup.family ∨ '.' :: familyBackwards <:+ logger.toList.reverse := by
  have below : '.' :: familyBackwards = (Setup.family ++ ".").toList.reverse := by simp [familyBackwards]
  rw [Within, below, List.reverse_suffix]

theorem isKnown_family (setup : Setup) : setup.isKnown familyBackwards = true := by simp [Setup.isKnown]

theorem within_of_belongs (belongs : setup.belongs logger = true) : Within logger := by
  rw [Setup.belongs, Bool.or_eq_true] at belongs
  rw [within_iff]
  exact belongs.imp eq_of_beq below_of_descends

theorem belongs_of_within (within : Within logger) (single : ¬ Doubled logger.toList) :
    setup.belongs logger = true := by
  rw [Setup.belongs, Bool.or_eq_true]
  rw [within_iff] at within
  refine within.imp beq_iff_eq.mpr (descends_of_below (isKnown_family setup) fun doubled => single ?_)
  exact List.reverse_infix.mp doubled

/-- The name starts like that of the family, but no dot parts the two. -/
def Strays (name : String) : Prop := Setup.family.toList <+: name.toList ∧ ¬ Within name

theorem within_loggerName (name : String) : Within (Setup.loggerName name) ↔ ¬ Strays name := by
  rw [Setup.loggerName, Strays]
  split
  next starts => simp [List.isPrefixOf_iff_prefix.mp starts]
  next other =>
    have apart : ¬ Setup.family.toList <+: name.toList := fun starts => other (List.isPrefixOf_iff_prefix.mpr starts)
    have below : Within (Setup.family ++ "." ++ name) := .inr (by simp)
    simp [apart, below]

theorem belongs_register (setup : Setup) (logger : String) :
    (setup.register logger).belongs logger = setup.belongs logger := by
  rw [Setup.belongs, Setup.belongs]
  congr 1
  refine descends_congr fun shorter less => ?_
  have apart : (logger.toList.reverse == shorter) = false := by
    rw [beq_eq_false_iff_ne]
    rintro rfl
    exact Nat.lt_irrefl _ less
  simp only [Setup.isKnown, Setup.register, List.insert, List.any_cons]
  split
  · rfl
  · rw [List.any_cons, apart, Bool.false_or]

end Names

/-! ## Lines -/

section Lines

variable {world : World} {record : Record} {console : Handler} {line message : String}

theorem deliver_console (sink : console.sink = .console)
    (formats : (console.formatter.line (some world.detection) record (world.stamp record)).1 = .ok line) :
    (world.deliver record console).1.errors =
      world.errors ++ if record.level.isBelow console.level then "" else line ++ "\n" := by
  rw [World.deliver]
  split
  · simp
  · simp only [sink, formats, World.report, String.append_assoc]

theorem deliver_file {level : Level} {file : Handler} (isFile : IsFile level file) :
    (world.deliver record file).1.errors = world.errors := by
  obtain ⟨path, limit, backups, sink⟩ := isFile.sink
  rw [World.deliver]
  split
  · rfl
  · dsimp only
    rw [sink]
    split
    next same => cases same
    next same _ => cases same
    next => split <;> rfl
    next => rfl

theorem deliverAll_file {level : Level} {file : Option Handler} (isFile : ∀ handler ∈ file, IsFile level handler) :
    (World.deliverAll record file.toList world).1.errors = world.errors := by
  cases file with
  | none => rfl
  | some file => exact deliver_file (isFile file rfl)

theorem console_first {level : Level} {handlers : List Handler} (assembled : Assembled level handlers)
    (member : console ∈ handlers) (sink : console.sink = .console) :
    ∃ file : Option Handler, handlers = console :: file.toList ∧ IsConsole level console ∧
      ∀ handler ∈ file, IsFile level handler := by
  obtain ⟨first, file, rfl, isConsole, isFile⟩ := assembled
  rcases List.mem_append.mp member with front | back
  · obtain rfl := Option.mem_toList.mp front
    exact ⟨file, rfl, isConsole console rfl, isFile⟩
  · obtain ⟨path, limit, backups, other⟩ := (isFile console (Option.mem_toList.mp back)).sink
    rw [sink] at other
    cases other

theorem emit_dropped (dropped : world.log.admits record.logger record.level = false) : world.emit record = world := by
  simp [World.emit, dropped]

/-- From a positive threshold on it decides alone whether a record is looked at. -/
theorem admits_threshold {logger : String} {level : Level} (positive : 0 < (world.log.threshold logger).number) :
    world.log.admits logger level = !level.isBelow (world.log.threshold logger) := by
  rw [Setup.admits]
  by_cases below : level.isBelow (world.log.threshold logger) = true
  · simp [below]
  · have severe : 0 < level.number := by
      simp only [Level.isBelow, decide_eq_true_eq] at below
      omega
    simp [severe]

theorem threshold_family {setup : Setup} {logger : String} (belongs : setup.belongs logger = true)
    (given : setup.level.number ≠ 0) : setup.threshold logger = setup.level := by
  rw [Setup.threshold, belongs, bne_iff_ne.mpr given]
  rfl

theorem emit_governed (assembled : Assembled world.log.level world.log.handlers) (member : console ∈ world.log.handlers)
    (sink : console.sink = .console) (positive : 0 < world.log.level.number)
    (belongs : world.log.belongs record.logger = true)
    (formats : (console.formatter.line (some world.detection) record (world.stamp record)).1 = .ok line) :
    (world.emit record).errors =
      world.errors ++ if record.level.isBelow world.log.level then "" else line ++ "\n" := by
  obtain ⟨file, row, isConsole, isFile⟩ := console_first assembled member sink
  have threshold : world.log.threshold record.logger = world.log.level := threshold_family belongs (Int.ne_of_gt positive)
  have admits : world.log.admits record.logger record.level = !record.level.isBelow world.log.level := by
    rw [← threshold] at positive ⊢
    exact admits_threshold positive
  cases below : record.level.isBelow world.log.level with
  | true =>
    rw [below] at admits
    rw [emit_dropped admits]
    simp
  | false =>
    rw [below] at admits
    have handlers : world.log.handlersOf record.logger = console :: file.toList := by
      rw [Setup.handlersOf, if_pos belongs, row]
    have delivered : (world.emit record).errors =
        (World.deliverAll record file.toList (world.deliver record console).1).1.errors := by
      simp [World.emit, admits, handlers, row, World.deliverAll]
    rw [delivered, deliverAll_file isFile, deliver_console sink formats, isConsole.level, below]

theorem emit_bare (apart : world.log.belongs record.logger = false) (readable : record.message = .ok message) :
    (world.emit record).errors =
      world.errors ++ if record.level.isBelow Level.warning then "" else message ++ "\n" := by
  have threshold : world.log.threshold record.logger = Level.warning := by
    rw [Setup.threshold, apart]
    rfl
  have admits : world.log.admits record.logger record.level = !record.level.isBelow Level.warning := by
    rw [← threshold]
    exact admits_threshold (by rw [threshold]; decide)
  cases below : record.level.isBelow Level.warning with
  | true =>
    rw [below] at admits
    rw [emit_dropped admits]
    simp
  | false =>
    rw [below] at admits
    have handlers : world.log.handlersOf record.logger = [] := by
      rw [Setup.handlersOf, apart]
      rfl
    simp [World.emit, admits, handlers, World.lastResort, below, readable, World.report, String.append_assoc]

end Lines

/-! ## Logging by name -/

section Logged

variable {before : Session} {console : Handler} {name text : String} {value : Value} {args : List Value}

def recordOf (name text : String) (args : List Value) (level : Level) : Record :=
  ⟨level, Setup.loggerName name, text, args, none⟩

/-- What reaches the error stream is the line of the handler, once, from the threshold of the family on. -/
def LinedBy (console : Handler) (name text : String) (value : Value) (args : List Value) (before : Session) : Prop :=
  ∀ level line, Level.ofNumber value = .ok level →
    (console.formatter.line (some before.world.detection) (recordOf name text args level)
      (before.world.stamp (recordOf name text args level))).1 = .ok line →
    ∃ after, Returns (Setup.log name value text args) before () after ∧
      after.world.errors =
        before.world.errors ++ if level.isBelow before.world.log.level then "" else line ++ "\n"

/-- What reaches the error stream is the message alone, from warnings on. -/
def Bare (name text : String) (value : Value) (args : List Value) (before : Session) : Prop :=
  ∀ level message, Level.ofNumber value = .ok level → (recordOf name text args level).message = .ok message →
    ∃ after, Returns (Setup.log name value text args) before () after ∧
      after.world.errors = before.world.errors ++ if level.isBelow Level.warning then "" else message ++ "\n"

def registered (name : String) (session : Session) : Session :=
  { session with world := { session.world with log := session.world.log.register (Setup.loggerName name) } }

theorem log_run (configured : before.world.log.configured = true)
    (assembled : Assembled before.world.log.level before.world.log.handlers) {level : Level}
    (severity : Level.ofNumber value = .ok level) :
    Returns (Setup.log name value text args) before () (emitted [recordOf name text args level] (registered name before)) := by
  have still : Assembled (registered name before).world.log.level (registered name before).world.log.handlers := assembled
  have got : outcome (Setup.getLogger name) before = (.ok (Setup.loggerName name), registered name before) := by
    rw [Setup.getLogger, outcome_bind, outcome_world, andThen_ok, configured]
    rfl
  rw [Returns, Setup.log, outcome_bind, got, andThen_ok, outcome_bind, outcome_lift, severity, ExceptSteps.mapError_ok,
    andThen_ok, note_emitted (still.unrefused _)]
  rfl

variable (configured : before.world.log.configured = true) (coherent : Coherent before.world.log)

include configured coherent

theorem lined_of_belongs (positive : 0 < before.world.log.level.number) (member : console ∈ before.world.log.handlers)
    (sink : console.sink = .console) (belongs : before.world.log.belongs (Setup.loggerName name) = true) :
    LinedBy console name text value args before := by
  intro level line severity formats
  refine ⟨_, log_run configured coherent.assembled severity, ?_⟩
  have below : (registered name before).world.log.belongs (Setup.loggerName name) = true := by
    rw [← belongs]
    exact belongs_register _ _
  change ((registered name before).world.emit (recordOf name text args level)).errors = _
  exact emit_governed coherent.assembled member sink positive below formats

theorem bare_of_apart (apart : before.world.log.belongs (Setup.loggerName name) = false) :
    Bare name text value args before := by
  intro level message severity readable
  refine ⟨_, log_run configured coherent.assembled severity, ?_⟩
  have beside : (registered name before).world.log.belongs (Setup.loggerName name) = false := by
    rw [← apart]
    exact belongs_register _ _
  exact emit_bare beside readable

end Logged

/-- Whatever was called before, a configuration with a console and a positive threshold governs what is logged by a name
exactly where the logger of the name is one of the family. Any other writes bare messages, from warnings on. A name that
strays is never of the family, and any other is if no two dots follow each other; if they do, it hangs on the loggers
there are. -/
theorem logged_by_name {session : Session} (unconfigured : Unconfigured session.world.log) (calls : List Call)
    (configured : (run calls session).world.log.configured = true) {console : Handler}
    (member : console ∈ (run calls session).world.log.handlers) (sink : console.sink = .console)
    (positive : 0 < (run calls session).world.log.level.number) (name : String) :
    ((run calls session).world.log.belongs (Setup.loggerName name) = true →
      ∀ text value args, LinedBy console name text value args (run calls session)) ∧
    ((run calls session).world.log.belongs (Setup.loggerName name) = false →
      ∀ text value args, Bare name text value args (run calls session)) ∧
    (Strays name → (run calls session).world.log.belongs (Setup.loggerName name) = false) ∧
    (¬ Strays name → ¬ Doubled (Setup.loggerName name).toList →
      (run calls session).world.log.belongs (Setup.loggerName name) = true) := by
  have coherent := (run_keeps calls session).coherent unconfigured.coherent
  refine ⟨fun belongs text value args => lined_of_belongs configured coherent positive member sink belongs,
    fun apart text value args => bare_of_apart configured coherent apart, fun strays => ?_, fun orderly single => ?_⟩
  · rw [Bool.eq_false_iff]
    exact fun belongs => (within_loggerName name).mp (within_of_belongs belongs) strays
  · exact belongs_of_within ((within_loggerName name).mpr orderly) single

/-- A configuration whose lines tell the severity, at warnings. -/
private def labelling : List Call :=
  [.configure { Options.standard with level := .int 30, format := some "%(levelname)s: %(message)s" }]

private def labelled : Handler := ⟨.ofInt 30, .plain "%(levelname)s: %(message)s", .console⟩

private theorem labelling_run :
    (run labelling fresh).world.log.configured = true ∧ (run labelling fresh).world.log.handlers = [labelled] ∧
      (run labelling fresh).world.log.level = .ofInt 30 ∧ (run labelling fresh).world.errors = "" ∧
      ∀ name ∈ ["app", "huecodex"],
        (labelled.formatter.line (some (run labelling fresh).world.detection) (recordOf name "lost" [] (.ofInt 30))
          ((run labelling fresh).world.stamp (recordOf name "lost" [] (.ofInt 30)))).1.toOption = some "WARNING: lost" := by
  decide +kernel

private theorem labelling_member : labelled ∈ (run labelling fresh).world.log.handlers := by
  rw [labelling_run.2.1]
  exact List.mem_singleton_self labelled

private theorem labelling_positive : 0 < (run labelling fresh).world.log.level.number := by
  rw [labelling_run.2.2.1]
  decide

private theorem labelling_line {name : String} (named : name ∈ ["app", "huecodex"]) :
    (labelled.formatter.line (some (run labelling fresh).world.detection) (recordOf name "lost" [] (.ofInt 30))
      ((run labelling fresh).world.stamp (recordOf name "lost" [] (.ofInt 30)))).1 = .ok "WARNING: lost" := by
  obtain ⟨-, -, -, -, lines⟩ := labelling_run
  exact ExceptSteps.toOption_some_iff.mp (lines name named)

theorem logged_by_name_labelled :
    labelled ∈ (run labelling fresh).world.log.handlers ∧
      ∃ after, Returns (Setup.log "app" (.int 30) "lost" []) (run labelling fresh) () after ∧
        after.world.errors = "WARNING: lost\n" := by
  have unconfigured : Unconfigured fresh.world.log := ⟨rfl, rfl⟩
  obtain ⟨configured, -, level, silent, -⟩ := labelling_run
  obtain ⟨governed, -, -, orderly⟩ := logged_by_name unconfigured labelling configured labelling_member rfl
    labelling_positive "app"
  have straight : ¬ Strays "app" := by simp [Strays, Setup.family]
  have single : ¬ Doubled (Setup.loggerName "app").toList := by simp [Setup.loggerName, Setup.family, List.infix_cons_iff]
  obtain ⟨after, returned, written⟩ := governed (orderly straight single) "lost" (.int 30) [] (.ofInt 30) "WARNING: lost" rfl
    (labelling_line (by simp))
  refine ⟨labelling_member, after, returned, written.trans ?_⟩
  rw [silent, level]
  simp [Level.isBelow]

/-- What is logged by a name that strays is not laid out as configured. -/
theorem straying_name_unlined :
    Unconfigured fresh.world.log ∧ (run labelling fresh).world.log.configured = true ∧
      labelled ∈ (run labelling fresh).world.log.handlers ∧ labelled.sink = .console ∧
      0 < (run labelling fresh).world.log.level.number ∧
      (∃ after, Returns (Setup.log "huecodex" (.int 30) "lost" []) (run labelling fresh) () after ∧
        after.world.errors = "lost\n") ∧
      ¬ LinedBy labelled "huecodex" "lost" (.int 30) [] (run labelling fresh) := by
  have unconfigured : Unconfigured fresh.world.log := ⟨rfl, rfl⟩
  have coherent := (run_keeps labelling fresh).coherent unconfigured.coherent
  obtain ⟨configured, -, level, silent, -⟩ := labelling_run
  have strays : Strays "huecodex" := ⟨by simp [Setup.family], by simp [Within, Setup.family]⟩
  have apart : (run labelling fresh).world.log.belongs (Setup.loggerName "huecodex") = false :=
    Bool.eq_false_iff.mpr fun belongs => (within_loggerName "huecodex").mp (within_of_belongs belongs) strays
  have unlined : Bare "huecodex" "lost" (.int 30) [] (run labelling fresh) := bare_of_apart configured coherent apart
  obtain ⟨after, returned, written⟩ := unlined (.ofInt 30) "lost" rfl (by simp [recordOf, Record.message])
  have bare : after.world.errors = "lost\n" := by
    rw [written, silent]
    simp [Level.isBelow, Level.warning]
  refine ⟨unconfigured, configured, labelling_member, rfl, labelling_positive, ⟨after, returned, bare⟩, fun lined => ?_⟩
  obtain ⟨other, returns, laid⟩ := lined (.ofInt 30) "WARNING: lost" rfl (labelling_line (by simp))
  obtain rfl : after = other := (Prod.mk.inj (returned.symm.trans returns)).2
  rw [bare, silent, level] at laid
  simp [Level.isBelow] at laid

end TermStyle.Proofs.LoggerFamily
