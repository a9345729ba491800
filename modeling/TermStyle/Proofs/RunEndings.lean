import TermStyle.Proofs.CommandOutcome
import TermStyle.Proofs.ProblemReport
import TermStyle.Proofs.RunCourse
import TermStyle.Proofs.SettlingOutcome

/-! How runs end. A run has one of a few endings, and problems end up on the error stream with code one; what is no problem
for the user ends it by a fault, and every way to that is listed. -/

namespace TermStyle.Proofs.RunEndings
open CommandLine Log ActionRun ActionFailure Logging StylerRun SettlingOutcome CommandOutcome RunCourse ProblemReport

/-- The codes of a run, and those with which reading the command line ends it. -/
def Documented (ending : Ending) : Prop :=
  ending ∈ [⟨0, false⟩, ⟨1, false⟩, ⟨130, false⟩, ⟨0, true⟩, ⟨2, true⟩]

/-- The fault of a run that has no documented ending. -/
inductive Escapes (given : List String) (before : Session) : Fault → Prop
  | settling {flags fault} (accepted : (Program.preliminary (Program.columns before.world.env)).parse
        (Perform.preliminaryWords (DefaultCommand.insert given)) = .ok flags)
      (unsettled : Unsettled (.ofParsed flags) before (.fault fault)) : Escapes given before fault
  | performing {globals settings command middle tier fault}
      (performs : Performs given before globals settings command middle tier)
      (breaks : Breaks tier globals middle.world command (.fault fault)) : Escapes given before fault
  | reporting {problem session fault} (comes : ComesTo given before problem session) (mute : Mute problem session fault) :
      Escapes given before fault

variable {given : List String} {before : Session}

/-- Settling fails with problems and faults; the user cannot interrupt it. -/
theorem unsettled_kinds {globals : Globals} {failure : Failure} (unsettled : Unsettled globals before failure) :
    (∃ problem, failure = .problem problem) ∨ ∃ fault, failure = .fault fault := by
  cases unsettled with
  | refused => exact Or.inr ⟨_, rfl⟩
  | blind => exact Or.inr ⟨_, rfl⟩
  | leveless => exact Or.inr ⟨_, rfl⟩
  | unloaded _ failed =>
    cases failed with
    | numeral => exact Or.inl ⟨_, rfl⟩
    | wrong => exact Or.inl ⟨_, rfl⟩
    | overlong => exact Or.inr ⟨_, rfl⟩
    | unfiled failed =>
      cases failed with
      | unsought => exact Or.inr ⟨_, rfl⟩
      | missing => exact Or.inl ⟨_, rfl⟩
      | unfound => exact Or.inr ⟨_, rfl⟩
      | stray => exact Or.inr ⟨_, rfl⟩
      | @obstructed _ obstacle =>
        cases obstacle with
        | unreadable => exact Or.inl ⟨_, rfl⟩
        | notMapping => exact Or.inl ⟨_, rfl⟩
        | stray => exact Or.inr ⟨_, rfl⟩

theorem escapes_of_fails {failure : Failure} (failed : Fails (Perform.run given) before failure) :
    ∃ fault, failure = .fault fault ∧ Escapes given before fault := by
  unfold Fails at failed
  generalize came : outcome (Perform.run given) before = result at failed
  have course := run_course given before
  rw [came] at course
  cases course with
  | @stopped stop _ _ => cases stop <;> cases failed
  | reported comes =>
    obtain ⟨fault, mute, rfl⟩ := reported_fails.mp failed
    exact ⟨fault, rfl, .reporting comes mute⟩
  | @unsettled _ cause _ accepted failing quiet =>
    cases failed
    have unsettled := (configure_fails accepted).mp (fails_iff.mpr ⟨_, failing⟩)
    rcases unsettled_kinds unsettled with ⟨problem, same⟩ | ⟨fault, rfl⟩
    · exact absurd same (quiet problem)
    · exact ⟨fault, rfl, .settling accepted unsettled⟩
  | unnamed => cases failed
  | performed => cases failed
  | cancelled => cases failed
  | broken performs failing =>
    cases failed
    have breaks := (command_fails performs.inForce _ _ _).mp (fails_iff.mpr ⟨_, failing⟩)
    exact ⟨_, rfl, .performing performs breaks⟩

theorem fails_of_escapes {fault : Fault} (escapes : Escapes given before fault) :
    Fails (Perform.run given) before (.fault fault) := by
  cases escapes with
  | settling accepted unsettled =>
    obtain ⟨session, failing⟩ := fails_iff.mp ((configure_fails accepted).mpr unsettled)
    rw [Fails, run_accepted accepted, failing]
    rfl
  | performing performs breaks =>
    obtain ⟨session, failing⟩ := fails_iff.mp ((command_fails performs.inForce _ _ _).mpr breaks)
    rw [Fails, performs.run, failing]
  | reporting comes mute =>
    rw [Fails, comes.run]
    exact reported_fails.mpr ⟨fault, mute, rfl⟩

theorem returns_documented {ending : Ending} {after : Session} (returned : Returns (Perform.run given) before ending after) :
    Documented ending := by
  unfold Returns at returned
  generalize came : outcome (Perform.run given) before = result at returned
  have course := run_course given before
  rw [came] at course
  unfold Documented
  cases course with
  | @stopped stop _ _ =>
    cases stop with
    | help => cases returned; simp
    | refused => cases returned; simp
  | reported comes =>
    obtain ⟨rfl, _⟩ := reported_returns returned
    simp
  | unsettled => cases returned
  | unnamed => cases returned; simp
  | performed => cases returned; simp
  | cancelled => cases returned; simp
  | broken => cases returned

/-- A run fails exactly where a fault escapes it. Any other run has a documented ending, and one that comes to a problem
ends with code one and the problem's message on the error stream. -/
theorem run_endings (given : List String) (before : Session) :
    (∀ failure, Fails (Perform.run given) before failure ↔ ∃ fault, failure = .fault fault ∧ Escapes given before fault) ∧
    ((∀ fault, ¬ Escapes given before fault) → ∃ ending after, Returns (Perform.run given) before ending after ∧
      Documented ending ∧
      ∀ problem session, ComesTo given before problem session → ending = ⟨1, false⟩ ∧
        ∃ tier world, reached session = .ok tier.level ∧ Logged session.world world ∧
          after.world = world.report (Emphasis.error ("Error: " ++ problem.text) tier)) := by
  constructor
  · intro failure
    constructor
    · exact escapes_of_fails
    · rintro ⟨fault, rfl, escapes⟩
      exact fails_of_escapes escapes
  · intro sealed
    rcases returns_or_fails (Perform.run given) before with ⟨ending, after, returned⟩ | ⟨failure, failed⟩
    · refine ⟨ending, after, returned, returns_documented returned, fun problem session comes => ?_⟩
      apply reported_returns
      rw [Returns, ← comes.run]
      exact returned
    · obtain ⟨fault, _, escapes⟩ := escapes_of_fails failed
      exact absurd escapes (sealed fault)

/-- A file where a directory would have to be made, and no tier in force. -/
def blocked : Session :=
  let plain := unset (plainSession .none)
  { plain with world := { plain.world with store := ⟨[(⟨false, ["a"]⟩, .file "x".toUTF8)], none⟩ } }

private def isTaken : Except Failure Ending → Bool
  | .error (.fault (.store .taken)) => true
  | _ => false

private theorem isTaken_iff {result : Except Failure Ending} :
    isTaken result = true ↔ result = .error (.fault (.store .taken)) := by
  unfold isTaken
  split
  · exact iff_of_true rfl rfl
  next other => exact iff_of_false Bool.false_ne_true other

theorem blocked_directory_escapes : Fails (Perform.run ["config", "init", "a/b.yml"]) blocked (.fault (.store .taken)) ∧
    ¬ ∃ ending after, Returns (Perform.run ["config", "init", "a/b.yml"]) blocked ending after := by
  have ends : isTaken (outcome (Perform.run ["config", "init", "a/b.yml"]) blocked).1 = true := by decide +kernel
  have failed : Fails (Perform.run ["config", "init", "a/b.yml"]) blocked (.fault (.store .taken)) := isTaken_iff.mp ends
  refine ⟨failed, ?_⟩
  rintro ⟨ending, after, returned⟩
  exact returns_unfailing returned failed

end TermStyle.Proofs.RunEndings
