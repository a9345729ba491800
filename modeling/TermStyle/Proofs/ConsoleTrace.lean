import TermStyle.Proofs.ConsoleOutcome

/-! What setting up the console does, in order. Each step adds to the trace of the platform, and every way the set-up can
take is a row of such events. From the ways follows what a trace never holds: above all an edit of the registry that
the user was not asked for. -/

namespace TermStyle.Proofs.ConsoleTrace
open ActionRun ActionFailure ConsoleRun ConsoleOutcome Logging Log Platform Console

def endsWell : Outcome → Bool
  | .exit code _ => code == 0
  | .fault _ => false

theorem endsWell_exit {outcome : Outcome} (well : endsWell outcome = true) : ∃ output, outcome = .exit 0 output := by
  cases outcome with
  | fault cause => cases well
  | exit code output => exact ⟨output, by rw [eq_of_beq well]⟩

section Steps

variable (before : Session)

theorem emitted_platform (records : List Record) (session : Session) :
    (emitted records session).world.platform = session.world.platform := by
  rw [(emitted_logged records session).rest]

theorem runCommand_well {command : List String} {timeout : Value} {output : String}
    (well : (before.world.platform.run command timeout).1 = .exit 0 output) :
    outcome (runCommand command timeout) before =
      (.ok output, onPlatform before (before.world.platform.run command timeout).2) := by
  have tried : outcome (tryCommand command timeout) before =
      (.ok (.exit 0 output), onPlatform before (before.world.platform.run command timeout).2) := by
    rw [← well]
    rfl
  rw [runCommand, outcome_bind, tried]
  rfl

theorem runCommand_ill {command : List String} (filled : command ≠ []) {timeout : Value}
    (ill : endsWell (before.world.platform.run command timeout).1 = false) :
    ∃ problem, outcome (runCommand command timeout) before =
      (.error (.problem problem), onPlatform before (before.world.platform.run command timeout).2) := by
  obtain ⟨name, arguments, rfl⟩ := List.exists_cons_of_ne_nil filled
  have tried : outcome (tryCommand (name :: arguments) timeout) before =
      (.ok (before.world.platform.run (name :: arguments) timeout).1,
        onPlatform before (before.world.platform.run (name :: arguments) timeout).2) := rfl
  rw [runCommand, outcome_bind, tried, andThen_ok]
  cases came : (before.world.platform.run (name :: arguments) timeout).1 with
  | fault cause => exact ⟨_, rfl⟩
  | exit code output =>
    rw [came] at ill
    have failing : code ≠ 0 := by simpa [endsWell] using ill
    refine ⟨.platform (name ++ " exited with an error") (some (name :: arguments)) (some code) none, ?_⟩
    split
    next same => cases same; exact absurd rfl failing
    next => rfl

theorem succeeds_run {command : List String} (filled : command ≠ []) :
    ∃ after, Returns (succeeds command) before (endsWell (before.world.platform.run command patience).1) after ∧
      after.world.platform = (before.world.platform.run command patience).2 := by
  cases well : endsWell (before.world.platform.run command patience).1 with
  | false =>
    obtain ⟨problem, failed⟩ := runCommand_ill before filled well
    exact ⟨_, returns_map.mpr ⟨none, absorbed_problem (fun _ => rfl) failed, rfl⟩, emitted_platform _ _⟩
  | true =>
    obtain ⟨output, same⟩ := endsWell_exit well
    exact ⟨_, returns_map.mpr ⟨some output, absorbed_value (runCommand_well before same), rfl⟩, rfl⟩

def ran (command : List String) (outcome : Outcome) : Event := .command ⟨command, patience⟩ outcome

theorem succeeds_trace (command : List String) (filled : command ≠ []) :
    ∃ outcome after, Returns (succeeds command) before (endsWell outcome) after ∧
      after.world.platform.trace = before.world.platform.trace ++ [ran command outcome] := by
  obtain ⟨after, returned, platform⟩ := succeeds_run before filled
  exact ⟨_, after, returned, by rw [platform]; rfl⟩

/-- The requests made for a standard stream, with its handle and what setting its mode came to. -/
def streamRequests (kernel : Kernel) (number result : Int) : List Event :=
  [.request (.handle number) (kernel.handle number), .request (.mode (kernel.handle number) vtMode) result]

theorem setMode_trace (platform : Platform) (handle mode : Int) :
    (platform.setMode handle mode).2.trace =
      platform.trace ++ [.request (.mode handle mode) (platform.setMode handle mode).1] := by
  unfold Platform.setMode
  split <;> rfl

theorem setMode_handle (platform : Platform) (handle mode : Int) :
    (platform.setMode handle mode).2.kernel.handle = platform.kernel.handle := by
  unfold Platform.setMode
  split
  next same =>
    rw [same]
    rfl
  next => rfl

theorem enableStream_trace (number : Int) :
    ∃ result after, Returns (enableStream number) before (result != 0) after ∧
      after.world.platform.kernel.handle = before.world.platform.kernel.handle ∧
        after.world.platform.trace =
          before.world.platform.trace ++ streamRequests before.world.platform.kernel number result := by
  let handle := before.world.platform.kernel.handle number
  have set := setMode_trace (before.world.platform.handle number).2 handle vtMode
  have handles := setMode_handle (before.world.platform.handle number).2 handle vtMode
  generalize came : (before.world.platform.handle number).2.setMode handle vtMode = answered at set handles
  obtain ⟨result, platform⟩ := answered
  have traced : platform.trace = before.world.platform.trace ++ streamRequests before.world.platform.kernel number result := by
    rw [set]
    simp [Platform.handle, Platform.add, streamRequests, handle]
  have told : ∃ after, Returns (do
      if result = 0 then Action.note [.debug logger s!"SetConsoleMode failed for std handle {number}"]
      return result != 0) (onPlatform before platform) (result != 0) after ∧ after.world.platform = platform := by
    split
    · exact ⟨_, returns_bind.mpr ⟨(), _, note_single rfl _, returns_pure.mpr ⟨rfl, rfl⟩⟩, emitted_platform _ _⟩
    · exact ⟨_, rfl, rfl⟩
  obtain ⟨after, returned, same⟩ := told
  refine ⟨result, after, ?_, by rw [same]; exact handles, by rw [same, traced]⟩
  rw [Returns, ← returned]
  simp only [enableStream, outcome_bind, outcome_world, andThen_ok]
  rw [show (before.world.platform.handle number).1 = handle from rfl, came]
  rfl

end Steps

/-- Every way of trying the registry: the events on it, and what it comes to. -/
inductive RegistryCourse (skipRegistry : Bool) (confirm : Option (Except Failure Bool)) :
    List Event → Except Failure (Bool × Nat) → Prop
  | skipped (skips : skipRegistry = true) : RegistryCourse skipRegistry confirm [] (.ok (false, 0))
  | found (allowed : skipRegistry = false) {query : Outcome} (there : endsWell query = true) :
      RegistryCourse skipRegistry confirm [ran registryQuery query] (.ok (true, 0))
  | unasked (allowed : skipRegistry = false) {query : Outcome} (absent : endsWell query = false)
      (nobody : confirm = none) : RegistryCourse skipRegistry confirm [ran registryQuery query] (.ok (false, 0))
  | unanswered (allowed : skipRegistry = false) {query : Outcome} (absent : endsWell query = false) {failure : Failure}
      (fails : confirm = some (.error failure)) :
      RegistryCourse skipRegistry confirm [ran registryQuery query, .question (.error failure)] (.error failure)
  | declined (allowed : skipRegistry = false) {query : Outcome} (absent : endsWell query = false)
      (refused : confirm = some (.ok false)) :
      RegistryCourse skipRegistry confirm [ran registryQuery query, .question (.ok false)] (.ok (false, 1))
  | edited (allowed : skipRegistry = false) {query : Outcome} (absent : endsWell query = false)
      (agreed : confirm = some (.ok true)) (addition : Outcome) :
      RegistryCourse skipRegistry confirm
        [ran registryQuery query, .question (.ok true), ran registryAddition addition] (.ok (endsWell addition, 1))

/-- Every way of enabling the console, given the path of the helper program: the events on it, and what it comes to. -/
inductive Course (facts : Facts) (kernel : Kernel) (path : String) (skipRegistry : Bool)
    (confirm : Option (Except Failure Bool)) : List Event → Except Failure Report → Prop
  | elsewhere (other : facts.onWindows = false) :
      Course facts kernel path skipRegistry confirm [] (.ok ⟨false, .notWindows, 0⟩)
  | helper (windows : facts.onWindows = true) (old : facts.version.any needsHelper = true) (started : Outcome) :
      Course facts kernel path skipRegistry confirm [ran [path, "-p"] started] (.ok ⟨endsWell started, .helper, 0⟩)
  | interface (windows : facts.onWindows = true) (recent : facts.version.any needsHelper = false) 
      {handles : List (Int × Int)} {results : List Int} (available : kernel = .present handles results) (output errors : Int) :
      Course facts kernel path skipRegistry confirm
        (streamRequests kernel outputHandle output ++ streamRequests kernel errorHandle errors)
        (.ok ⟨output != 0 && errors != 0, .interface, 0⟩)
  | registry (windows : facts.onWindows = true) (recent : facts.version.any needsHelper = false)
      (unavailable : ∀ handles results, kernel ≠ .present handles results) {events : List Event}
      {result : Except Failure (Bool × Nat)} (way : RegistryCourse skipRegistry confirm events result) :
      Course facts kernel path skipRegistry confirm events (result.map fun found => ⟨found.1, .registry, found.2⟩)

section Ways

variable (before : Session) (skipRegistry : Bool) (confirm : Option (Except Failure Bool))

theorem enableStreams_trace : ∃ output errors after, Returns enableStreams before (output != 0 && errors != 0) after ∧
    after.world.platform.trace =
      before.world.platform.trace ++ (streamRequests before.world.platform.kernel outputHandle output ++
        streamRequests before.world.platform.kernel errorHandle errors) := by
  obtain ⟨output, middle, first, handles, traced⟩ := enableStream_trace before outputHandle
  obtain ⟨errors, after, second, _, further⟩ := enableStream_trace middle errorHandle
  rw [streamRequests, handles] at further
  refine ⟨output, errors, after, ?_, by rw [further, traced, List.append_assoc]; rfl⟩
  exact returns_bind.mpr ⟨_, middle, first, returns_map.mpr ⟨_, second, rfl⟩⟩

private abbrev questioned (answer : Except Failure Bool) : Session :=
  onPlatform before (before.world.platform.add (.question answer))

theorem enableRegistry_course : ∃ events after result, outcome (enableRegistry skipRegistry confirm) before = (result, after) ∧
    after.world.platform.trace = before.world.platform.trace ++ events ∧
      RegistryCourse skipRegistry confirm events result := by
  cases skipRegistry with
  | true => exact ⟨[], before, _, rfl, (List.append_nil _).symm, .skipped rfl⟩
  | false =>
    obtain ⟨query, middle, queried, traced⟩ := succeeds_trace before registryQuery nofun
    have run : outcome (enableRegistry false confirm) before = _ := outcome_behind queried
    cases well : endsWell query with
    | true =>
      rw [well] at run
      exact ⟨_, middle, _, run, traced, .found rfl well⟩
    | false =>
      rw [well] at run
      cases confirm with
      | none => exact ⟨_, middle, _, run, traced, .unasked rfl well rfl⟩
      | some answer =>
        have question : (questioned middle answer).world.platform.trace =
            before.world.platform.trace ++ [ran registryQuery query, .question answer] := by
          change middle.world.platform.trace ++ [.question answer] = _
          rw [traced, List.append_assoc]
          rfl
        cases answer with
        | error failure => exact ⟨_, _, _, run, question, .unanswered rfl well rfl⟩
        | ok agreed =>
          cases agreed with
          | false => exact ⟨_, _, _, run, question, .declined rfl well rfl⟩
          | true =>
            obtain ⟨addition, after, added, last⟩ := succeeds_trace (questioned middle (.ok true)) registryAddition nofun
            refine ⟨_, after, _, run.trans (outcome_behind added), ?_, .edited rfl well rfl addition⟩
            rw [last, question, List.append_assoc]
            rfl

theorem enableAsking_course (given : Option Facts) : ∃ events after result,
    outcome (enableAsking given skipRegistry confirm) before = (result, after) ∧
      after.world.platform.trace = before.world.platform.trace ++ events ∧
        Course (factsFor given before.world.platform) before.world.platform.kernel (helper before.world.env) skipRegistry
          confirm events result := by
  rw [enableAsking, outcome_bind, outcome_world, andThen_ok]
  dsimp only
  generalize factsFor given before.world.platform = facts
  cases windows : facts.onWindows with
  | false => exact ⟨[], before, _, rfl, (List.append_nil _).symm, .elsewhere windows⟩
  | true =>
    cases old : facts.version.any needsHelper with
    | true =>
      obtain ⟨started, after, returned, traced⟩ := succeeds_trace before [helper before.world.env, "-p"] nofun
      exact ⟨_, after, _, outcome_behind returned, traced, .helper windows old started⟩
    | false =>
      rw [if_neg (by decide), if_neg (by decide), outcome_bind, outcome_world, andThen_ok]
      cases kernel : before.world.platform.kernel with
      | present handles results =>
        obtain ⟨output, errors, after, returned, traced⟩ := enableStreams_trace before
        rw [kernel] at traced
        exact ⟨_, after, _, outcome_behind returned, traced, .interface windows old rfl output errors⟩
      | absent =>
        obtain ⟨events, after, result, run, traced, way⟩ := enableRegistry_course before skipRegistry confirm
        refine ⟨events, after, _, ?_, traced, .registry windows old (by simp) way⟩
        exact (outcome_map _ _ before).trans (by rw [run])
      | broken =>
        let record := (Record.debug logger "kernel32 unavailable: ").withCause (.command .missing)
        have noted : Returns (Action.note [record]) before () (emitted [record] before) := note_single rfl before
        obtain ⟨events, after, result, run, traced, way⟩ :=
          enableRegistry_course (emitted [record] before) skipRegistry confirm
        refine ⟨events, after, _, ?_, by rw [traced, emitted_platform], .registry windows old (by simp) way⟩
        exact (outcome_behind noted).trans ((outcome_map _ _ _).trans (by rw [run]))

end Ways

/-- The event is a command whose words start with the given ones. -/
def Runs (words : List String) : Event → Prop
  | .command call _ => words <+: call.command
  | _ => False

abbrev Queries : Event → Prop := Runs ["reg", "query"]

abbrev Adds : Event → Prop := Runs ["reg", "add"]

def Failed : Event → Prop
  | .command _ outcome => endsWell outcome = false
  | _ => False

def isCommand : Event → Bool
  | .command _ _ => true
  | _ => false

def isRequest : Event → Bool
  | .request _ _ => true
  | _ => false

def isQuestion : Event → Bool
  | .question _ => true
  | _ => false

/-- What holds of the events of one call. The registry is written behind the user's consent, the user is asked behind a
query that failed, and neither happens where the registry is to be left alone. -/
structure Consented (facts : Facts) (kernel : Kernel) (skipRegistry : Bool) (confirm : Option (Except Failure Bool))
    (events : List Event) : Prop where
  added : ∀ earlier event later, events = earlier ++ event :: later → Adds event →
    facts.onWindows = true ∧ facts.version.any needsHelper = false ∧ (∀ handles results, kernel ≠ .present handles results) ∧
      skipRegistry = false ∧ confirm = some (.ok true) ∧
        ∃ query, Queries query ∧ Failed query ∧ earlier = [query, .question (.ok true)]
  asked : ∀ earlier answer later, events = earlier ++ .question answer :: later →
    confirm = some answer ∧ ∃ query, Queries query ∧ Failed query ∧ earlier = [query]
  once : events.countP isQuestion ≤ 1
  skipped : skipRegistry = true → ∀ event ∈ events, ¬ Queries event ∧ ¬ Adds event
  few : events.countP isCommand ≤ 2
  apart : ∀ command ∈ events, isCommand command = true → ∀ other ∈ events, isRequest other = false
  elsewhere : facts.onWindows = false → events = []

theorem query_queries (outcome : Outcome) : Queries (ran registryQuery outcome) := by
  simp [Runs, ran, registryQuery]

theorem query_adds (outcome : Outcome) : ¬ Adds (ran registryQuery outcome) := by
  simp [Runs, ran, registryQuery]

theorem helper_runs (path : String) {word : String} (other : word ≠ "-p") (outcome : Outcome) :
    ¬ Runs ["reg", word] (ran [path, "-p"] outcome) := by
  simp [Runs, ran, other]

section Registry

variable {skipRegistry : Bool} {confirm : Option (Except Failure Bool)} {events : List Event}
  {result : Except Failure (Bool × Nat)} (way : RegistryCourse skipRegistry confirm events result)

include way

theorem RegistryCourse.added {earlier later : List Event} {event : Event} (split : events = earlier ++ event :: later)
    (adds : Adds event) : skipRegistry = false ∧ confirm = some (.ok true) ∧
      ∃ query, Queries query ∧ Failed query ∧ earlier = [query, .question (.ok true)] := by
  cases way with
  | skipped => simp at split
  | found | unasked =>
    obtain ⟨_, rfl, _⟩ : earlier = [] ∧ event = _ ∧ later = [] := by simpa [List.cons_eq_append_iff] using split
    exact absurd adds (query_adds _)
  | unanswered | declined =>
    simp only [List.cons_eq_append_iff, List.nil_eq_append_iff, List.cons.injEq] at split
    rcases split with ⟨_, rfl, _⟩ | ⟨_, _, ⟨_, rfl, _⟩ | ⟨_, _, _, impossible⟩⟩
    · exact absurd adds (query_adds _)
    · exact adds.elim
    · cases impossible
  | @edited allowed query absent agreed addition =>
    simp only [List.cons_eq_append_iff, List.nil_eq_append_iff, List.cons.injEq] at split
    rcases split with ⟨_, rfl, _⟩ | ⟨_, rfl, ⟨_, rfl, _⟩ | ⟨_, rfl, ⟨rfl, _⟩ | ⟨_, _, _, impossible⟩⟩⟩
    · exact absurd adds (query_adds _)
    · exact adds.elim
    · exact ⟨allowed, agreed, _, query_queries query, absent, rfl⟩
    · cases impossible

theorem RegistryCourse.asked {earlier later : List Event} {answer : Except Failure Bool}
    (split : events = earlier ++ .question answer :: later) :
    confirm = some answer ∧ ∃ query, Queries query ∧ Failed query ∧ earlier = [query] := by
  cases way with
  | skipped => simp at split
  | found | unasked => simp [List.cons_eq_append_iff, ran] at split
  | @unanswered _ query absent _ answered | @declined _ query absent answered | @edited _ query absent answered addition =>
    obtain ⟨rfl, rfl, _⟩ : earlier = [ran registryQuery query] ∧ answer = _ ∧ later = _ := by
      simpa [List.cons_eq_append_iff, ran] using split
    exact ⟨answered, _, query_queries query, absent, rfl⟩

theorem RegistryCourse.counted {enabled : Bool} {asked : Nat} (returned : result = .ok (enabled, asked)) :
    asked = events.countP isQuestion := by
  cases way <;> cases returned <;> simp [List.countP_cons, isQuestion, ran]

theorem RegistryCourse.once : events.countP isQuestion ≤ 1 := by
  cases way <;> simp [List.countP_cons, isQuestion, ran]

theorem RegistryCourse.few : events.countP isCommand ≤ 2 := by
  cases way <;> simp [List.countP_cons, isCommand, ran]

theorem RegistryCourse.apart : ∀ other ∈ events, isRequest other = false := by
  cases way <;> simp [isRequest, ran]

theorem RegistryCourse.nothing (skips : skipRegistry = true) : events = [] := by
  cases way with
  | skipped => rfl
  | found allowed | unasked allowed | unanswered allowed | declined allowed | edited allowed =>
    rw [skips] at allowed
    cases allowed

end Registry

variable {facts : Facts} {kernel : Kernel} {path : String} {skipRegistry : Bool} {confirm : Option (Except Failure Bool)}
  {events : List Event}

/-- Where no event has to do with the registry, nobody has to consent. -/
theorem unasked_consented (foreign : ∀ event ∈ events, isQuestion event = false ∧ ¬ Queries event ∧ ¬ Adds event)
    (few : events.countP isCommand ≤ 2)
    (apart : ∀ command ∈ events, isCommand command = true → ∀ other ∈ events, isRequest other = false)
    (elsewhere : facts.onWindows = false → events = []) : Consented facts kernel skipRegistry confirm events := by
  refine ⟨?_, ?_, ?_, fun _ event member => (foreign event member).2, few, apart, elsewhere⟩
  · rintro earlier event later rfl adds
    exact absurd adds (foreign event (by simp)).2.2
  · rintro earlier answer later rfl
    exact absurd (foreign (.question answer) (by simp)).1 (by simp [isQuestion])
  · rw [List.countP_eq_zero.mpr fun event member => by simp [(foreign event member).1]]
    exact Nat.zero_le 1

theorem Course.consented {result : Except Failure Report}
    (course : Course facts kernel path skipRegistry confirm events result) :
    Consented facts kernel skipRegistry confirm events := by
  cases course with
  | elsewhere other => exact unasked_consented (by simp) (by simp) (by simp) fun _ => rfl
  | helper windows old started =>
    refine unasked_consented ?_ (by simp [isCommand, ran]) (by simp [isRequest, ran]) (by simp [windows])
    intro event member
    obtain rfl := List.mem_singleton.mp member
    exact ⟨rfl, helper_runs path (by decide) started, helper_runs path (by decide) started⟩
  | interface windows recent available output errors =>
    have requested : ∀ event ∈ streamRequests kernel outputHandle output ++ streamRequests kernel errorHandle errors,
        ∃ request answer, event = .request request answer := by simp [streamRequests]
    refine unasked_consented ?_ (by simp [streamRequests, isCommand]) ?_ (by simp [windows])
    · intro event member
      obtain ⟨request, answer, rfl⟩ := requested event member
      exact ⟨rfl, id, id⟩
    · intro command member commands
      obtain ⟨request, answer, rfl⟩ := requested command member
      cases commands
  | registry windows recent unavailable way =>
    refine ⟨fun _ _ _ split adds => ⟨windows, recent, unavailable, way.added split adds⟩, fun _ _ _ => way.asked, way.once,
      ?_, way.few, fun _ _ _ => way.apart, by simp [windows]⟩
    intro skips
    simp [way.nothing skips]

theorem Course.counted {report : Report} (course : Course facts kernel path skipRegistry confirm events (.ok report)) :
    report.asked = events.countP isQuestion := by
  generalize returned : (Except.ok report : Except Failure Report) = result at course
  cases course with
  | elsewhere | helper | interface =>
    cases returned
    simp [isQuestion, ran, streamRequests]
  | @registry _ _ _ _ found way =>
    cases found with
    | error failure => cases returned
    | ok found =>
      cases returned
      exact way.counted rfl

/-- Whatever the platform is and answers, one call of the console set-up edits the registry only behind a query that
failed and a question that was answered with consent, and asks only behind such a query. -/
theorem registry_edited_with_consent (given : Option Facts) (skipRegistry : Bool)
    (confirm : Option (Except Failure Bool)) (before : Session) : ∃ events after result,
      outcome (enableAsking given skipRegistry confirm) before = (result, after) ∧
        after.world.platform.trace = before.world.platform.trace ++ events ∧
          Course (factsFor given before.world.platform) before.world.platform.kernel (helper before.world.env) skipRegistry
            confirm events result ∧
          (∀ report, result = .ok report → report.asked = events.countP isQuestion) ∧
            Consented (factsFor given before.world.platform) before.world.platform.kernel skipRegistry confirm events := by
  obtain ⟨events, after, result, run, traced, course⟩ := enableAsking_course before skipRegistry confirm given
  refine ⟨events, after, result, run, traced, course, ?_, course.consented⟩
  rintro report rfl
  exact course.counted

end TermStyle.Proofs.ConsoleTrace
