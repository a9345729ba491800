import TermStyle.Proofs.ConsoleTrace

/-! What the set-up of the console reports. The version in force decides on the method, and the method's own success on
what is reported. Everything it goes by is an answer of the platform, to what was asked of it in this order. -/

namespace TermStyle.Proofs.ConsoleReport
open ActionRun ConsoleRun ConsoleTrace Logging StylerRun Log Platform Console

/-- The events are what the platform makes of what is asked of it, one after the other. -/
def Replays : Platform → List Event → Platform → Prop
  | before, [], after => after = before
  | before, event :: rest, after => ∃ middle, Answers before event middle ∧ Replays middle rest after

theorem replays_append {before middle after : Platform} {first second : List Event} (one : Replays before first middle)
    (other : Replays middle second after) : Replays before (first ++ second) after := by
  induction first generalizing before with
  | nil =>
    obtain rfl := one
    exact other
  | cons event rest ih =>
    obtain ⟨next, answers, further⟩ := one
    exact ⟨next, answers, ih further⟩

theorem answers_trace {before after : Platform} {event : Event} (answers : Answers before event after) :
    after.trace = before.trace ++ [event] := by
  cases event with
  | command call outcome =>
    obtain ⟨rfl, rfl⟩ := Prod.mk.inj answers
    rfl
  | request request answer =>
    cases request with
    | handle number =>
      obtain ⟨rfl, rfl⟩ := Prod.mk.inj answers
      rfl
    | mode handle mode =>
      have set := setMode_trace before handle mode
      rwa [show before.setMode handle mode = _ from answers] at set
  | question answer =>
    obtain rfl := answers
    rfl

theorem replays_trace {before after : Platform} {events : List Event} (replays : Replays before events after) :
    after.trace = before.trace ++ events := by
  induction events generalizing before with
  | nil =>
    obtain rfl := replays
    exact (List.append_nil _).symm
  | cons event rest ih =>
    obtain ⟨middle, answers, further⟩ := replays
    rw [ih further, answers_trace answers, List.append_assoc]
    rfl

/-- Everything that was asked of the platform in between was answered by it. -/
def Follows (before after : Session) : Prop := ∃ events, Replays before.world.platform events after.world.platform

instance : IsPreorder Session Follows where
  refl _ := ⟨[], rfl⟩
  trans := by
    rintro _ _ _ ⟨_, one⟩ ⟨_, other⟩
    exact ⟨_, replays_append one other⟩

theorem talking_follows : Talking Follows where
  noted records session := ⟨[], by rw [(note_logged records session).2.rest]; rfl⟩
  answered _ event after answers := ⟨[event], after, answers, rfl⟩

/-- The version is known, and its console cannot do without the helper program. -/
def Old (version : Option Version) : Prop :=
  ∃ known, version = some known ∧ (known.major < 10 ∨ known.major = 10 ∧ known.build < 14393)

def Succeeded (outcome : Outcome) : Prop := ∃ output, outcome = .exit 0 output

/-- What is reported, and what it goes by: the one command of the helper program, the results for both streams, or the
query of the registry value and the addition that the user agreed to. -/
structure Reported (facts : Facts) (kernel : Kernel) (path : String) (skipRegistry : Bool)
    (confirm : Option (Except Failure Bool)) (events : List Event) (report : Report) : Prop where
  elsewhere : facts.onWindows = false → report.method = .notWindows ∧ report.enabled = false ∧ events = []
  method : facts.onWindows = true →
    (report.method = .helper ↔ Old facts.version) ∧
    (report.method = .interface ↔ ¬ Old facts.version ∧ ∃ handles results, kernel = .present handles results) ∧
    (report.method = .registry ↔ ¬ Old facts.version ∧ ∀ handles results, kernel ≠ .present handles results)
  helper : report.method = .helper →
    ∃ started, events = [ran [path, "-p"] started] ∧ (report.enabled = true ↔ Succeeded started)
  interface : report.method = .interface →
    ∃ output errors, events = streamRequests kernel outputHandle output ++ streamRequests kernel errorHandle errors ∧
      (report.enabled = true ↔ output ≠ 0 ∧ errors ≠ 0)
  skipped : report.method = .registry → skipRegistry = true → report.enabled = false ∧ events = []
  registry : report.method = .registry → skipRegistry = false →
    ∃ query rest, events = ran registryQuery query :: rest ∧
      (report.enabled = true ↔ Succeeded query ∨ confirm = some (.ok true) ∧
        ∃ addition, rest = [.question (.ok true), ran registryAddition addition] ∧ Succeeded addition)

theorem endsWell_iff {outcome : Outcome} : endsWell outcome = true ↔ Succeeded outcome := by
  constructor
  · exact endsWell_exit
  · rintro ⟨output, rfl⟩
    rfl

theorem needsHelper_iff {version : Option Version} : version.any needsHelper = true ↔ Old version := by
  cases version with
  | none => simp [Old]
  | some version =>
    have spelled : (version.build < interfaceBuild) ↔ version.build < 14393 := Iff.rfl
    simp [Old, needsHelper, spelled]

section Reports

variable {facts : Facts} {kernel : Kernel} {path : String} {skipRegistry : Bool} {confirm : Option (Except Failure Bool)}
  {events : List Event}

/-- Trying the registry fails where asking does, and else it looks, and adds what the user agrees to. -/
theorem registry_told {result : Except Failure (Bool × Nat)} (way : RegistryCourse skipRegistry confirm events result) :
    (∃ failure, confirm = some (.error failure) ∧ result = .error failure) ∨
    ∃ found, result = .ok found ∧ (skipRegistry = true → found.1 = false ∧ events = []) ∧
      (skipRegistry = false → ∃ query rest, events = ran registryQuery query :: rest ∧
        (found.1 = true ↔ Succeeded query ∨ confirm = some (.ok true) ∧
          ∃ addition, rest = [.question (.ok true), ran registryAddition addition] ∧ Succeeded addition)) := by
  cases way with
  | skipped skips => exact Or.inr ⟨_, rfl, fun _ => ⟨rfl, rfl⟩, fun allowed => by simp [skips] at allowed⟩
  | unanswered allowed absent fails => exact Or.inl ⟨_, fails, rfl⟩
  | @found allowed query there =>
    refine Or.inr ⟨_, rfl, by simp [allowed], fun _ => ⟨query, _, rfl, ?_⟩⟩
    simp [endsWell_iff.mp there]
  | @unasked allowed query absent nobody =>
    refine Or.inr ⟨_, rfl, by simp [allowed], fun _ => ⟨query, _, rfl, ?_⟩⟩
    simp [nobody, ← endsWell_iff, absent]
  | @declined allowed query absent refused =>
    refine Or.inr ⟨_, rfl, by simp [allowed], fun _ => ⟨query, _, rfl, ?_⟩⟩
    simp [refused, ← endsWell_iff, absent]
  | @edited allowed query absent agreed addition =>
    refine Or.inr ⟨_, rfl, by simp [allowed], fun _ => ⟨query, _, rfl, ?_⟩⟩
    simp [agreed, ← endsWell_iff, absent, ran]

theorem course_told {result : Except Failure Report} (course : Course facts kernel path skipRegistry confirm events result) :
    (∃ failure, confirm = some (.error failure) ∧ result = .error failure) ∨
      ∃ report, result = .ok report ∧ Reported facts kernel path skipRegistry confirm events report := by
  cases course with
  | elsewhere other =>
    refine Or.inr ⟨_, rfl, fun _ => ⟨rfl, rfl, rfl⟩, by simp [other], ?_, ?_, ?_, ?_⟩ <;> rintro ⟨⟩
  | helper windows old started =>
    have needed := needsHelper_iff.mp old
    refine Or.inr ⟨_, rfl, by simp [windows], fun _ => by simp [needed], fun _ => ⟨started, rfl, endsWell_iff⟩, ?_, ?_, ?_⟩
      <;> rintro ⟨⟩
  | interface windows recent available output errors =>
    have fresh : ¬ Old facts.version := fun old => by simp [needsHelper_iff.mpr old] at recent
    refine Or.inr ⟨_, rfl, by simp [windows], fun _ => by simp [fresh, available], ?_, fun _ => ⟨output, errors, rfl, by simp⟩,
      ?_, ?_⟩ <;> rintro ⟨⟩
  | registry windows recent unavailable way =>
    have fresh : ¬ Old facts.version := fun old => by simp [needsHelper_iff.mpr old] at recent
    rcases registry_told way with ⟨failure, fails, rfl⟩ | ⟨found, rfl, skipped, looked⟩
    · exact Or.inl ⟨failure, fails, rfl⟩
    · refine Or.inr ⟨_, rfl, by simp [windows], fun _ => by simp [fresh, unavailable], ?_, ?_, fun _ => skipped,
        fun _ => looked⟩ <;> rintro ⟨⟩

end Reports

theorem enableAsking_replays (given : Option Facts) (skipRegistry : Bool) (confirm : Option (Except Failure Bool))
    (before : Session) : ∃ events after result,
      outcome (enableAsking given skipRegistry confirm) before = (result, after) ∧
        Replays before.world.platform events after.world.platform ∧
          Course (factsFor given before.world.platform) before.world.platform.kernel (helper before.world.env) skipRegistry
            confirm events result := by
  obtain ⟨events, after, result, run, traced, course⟩ := enableAsking_course before skipRegistry confirm given
  have follows := enableAsking_leads talking_follows given skipRegistry confirm before
  rw [run] at follows
  obtain ⟨replayed, replays⟩ := follows
  obtain rfl := List.append_cancel_left (traced.symm.trans (replays_trace replays))
  exact ⟨events, after, result, run, replays, course⟩

/-- The set-up raises nothing but what the callback raises. It reports the method that the version in force decides on,
and success exactly where that method had it. -/
theorem console_reported (given : Option Facts) (skipRegistry : Bool) (confirm : Option (Except Failure Bool))
    (before : Session) : ∃ events after result,
      outcome (enableAsking given skipRegistry confirm) before = (result, after) ∧
        Replays before.world.platform events after.world.platform ∧
          ((∃ failure, confirm = some (.error failure) ∧ result = .error failure) ∨
            ∃ report, result = .ok report ∧ Reported (factsFor given before.world.platform) before.world.platform.kernel
              (helper before.world.env) skipRegistry confirm events report) := by
  obtain ⟨events, after, result, run, replays, course⟩ := enableAsking_replays given skipRegistry confirm before
  exact ⟨events, after, result, run, replays, course_told course⟩

/-- A recent Windows without the console interface, on which every command ends well: the registry value is there. -/
private def equipped : Session :=
  { plainSession .none with world := { (plainSession .none).world with
    platform := ⟨true, some ⟨10, 0, 19045⟩, [.exit 0 ""], .absent, []⟩ } }

private def bare : Session :=
  { plainSession .none with world := { (plainSession .none).world with
    platform := ⟨true, some ⟨10, 0, 19045⟩, [.exit 1 ""], .absent, []⟩ } }

/-- A value that is there makes no success where the registry is to be left alone, and a callback that raises makes the
set-up raise. -/
theorem present_value_left_alone :
    (Succeeded (equipped.world.platform.run registryQuery patience).1 ∧
      (outcome (enableAsking none true none) equipped).1 = .ok ⟨false, .registry, 0⟩) ∧
    (outcome (enableAsking none false (some (.error .interrupt))) bare).1 = .error .interrupt := by
  exact ⟨⟨⟨"", rfl⟩, rfl⟩, rfl⟩

end TermStyle.Proofs.ConsoleReport
