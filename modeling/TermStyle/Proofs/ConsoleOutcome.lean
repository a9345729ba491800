import TermStyle.Proofs.ActionFailure
import TermStyle.Proofs.ConsoleRun

/-! Talking to the platform never fails. A command that goes wrong is a problem, which is noted and passed over, and a
console that refuses is reported as such. -/

namespace TermStyle.Proofs.ConsoleOutcome
open ActionRun ActionFailure StylerRun Log Platform Console

theorem runCommand_fails {command : List String} (filled : command ≠ []) (timeout : Value) {before : Session}
    {failure : Failure} (failed : Fails (runCommand command timeout) before failure) : ∃ problem, failure = .problem problem := by
  obtain ⟨name, arguments, rfl⟩ := List.exists_cons_of_ne_nil filled
  rcases fails_bind.mp failed with tried | ⟨outcome, middle, _, ended⟩
  · cases tried
  · split at ended
    · cases ended
    · split at ended
      next absent => cases absent
      · split at ended
        · exact ⟨_, fails_throw.mp ended⟩
        · exact ⟨_, fails_throw.mp ended⟩

theorem absorbed_value {words : Problem → Record} {action : Action α} {before after : Session} {value : α}
    (returned : Returns action before value after) : Returns (Query.absorbed words action) before (some value) after := by
  simp only [Returns, Query.absorbed, outcome_bind, outcome_tryCatch, show outcome action before = _ from returned, andThen_ok]
  rfl

theorem absorbed_problem {words : Problem → Record} (bare : ∀ problem, (words problem).args = []) {action : Action α}
    {before middle : Session} {problem : Problem} (failed : outcome action before = (.error (.problem problem), middle)) :
    Returns (Query.absorbed words action) before none (Logging.emitted [words problem] middle) := by
  simp only [Returns, Query.absorbed, outcome_bind, outcome_tryCatch, failed, andThen_error,
    Logging.note_single (bare problem), andThen_ok]
  rfl

/-- What fails with problems alone is absorbed. -/
theorem absorbed_sure {words : Problem → Record} (bare : ∀ problem, (words problem).args = []) {action : Action α}
    (problems : ∀ before failure, Fails action before failure → ∃ problem, failure = .problem problem) :
    Sure (Query.absorbed words action) := by
  intro before
  rcases returns_or_fails action before with ⟨value, after, returned⟩ | ⟨failure, failed⟩
  · exact ⟨some value, after, absorbed_value returned⟩
  · obtain ⟨problem, rfl⟩ := problems before failure failed
    obtain ⟨middle, failed⟩ := fails_iff.mp failed
    exact ⟨none, _, absorbed_problem bare failed⟩

theorem succeeds_sure {command : List String} (filled : command ≠ []) : Sure (succeeds command) :=
  sure_bind (absorbed_sure (fun _ => rfl) fun _ _ => runCommand_fails filled patience) fun _ => sure_pure _

theorem enableStream_sure (number : Int) : Sure (enableStream number) := by
  have told (result : Int) : Sure (do
      if result = 0 then Action.note [.debug logger s!"SetConsoleMode failed for std handle {number}"]
      return result != 0) := by
    split
    · exact sure_bind (sure_bare rfl) fun _ => sure_pure _
    · exact sure_pure _
  exact sure_bind sure_world fun world => sure_bind (sure_inWorld _) fun _ => told _

theorem enableStreams_sure : Sure enableStreams :=
  sure_bind (enableStream_sure _) fun _ => sure_bind (enableStream_sure _) fun _ => sure_pure _

theorem ask_sure (answer : Bool) : Sure (Console.ask (.ok answer)) := sure_bind (sure_inWorld _) fun _ => sure_pure answer

theorem enableRegistry_sure (skipRegistry : Bool) (consent : Option Bool) :
    Sure (enableRegistry skipRegistry (consent.map .ok)) := by
  unfold enableRegistry
  split
  · exact sure_pure _
  · refine sure_bind (succeeds_sure nofun) fun found => ?_
    split
    · exact sure_pure _
    · cases consent with
      | none => exact sure_pure _
      | some answer =>
        refine sure_bind (ask_sure answer) fun agreed => ?_
        split
        · exact sure_bind (succeeds_sure nofun) fun _ => sure_pure _
        · exact sure_pure _

theorem enable_sure (skipRegistry : Bool) (consent : Option Bool) : Sure (enable skipRegistry consent) := by
  have registry : Sure (enableRegistry skipRegistry (consent.map .ok) >>= fun found =>
      pure (⟨found.1, .registry, found.2⟩ : Report)) :=
    sure_bind (enableRegistry_sure skipRegistry consent) fun _ => sure_pure _
  refine sure_bind sure_world fun world => ?_
  dsimp only
  split
  · exact sure_pure _
  · split
    · exact sure_bind sure_world fun _ => sure_bind (succeeds_sure nofun) fun _ => sure_pure _
    · refine sure_bind sure_world fun world => ?_
      split
      · exact sure_bind enableStreams_sure fun _ => sure_pure _
      · split
        · exact sure_bind (sure_bare rfl) fun _ => registry
        · exact registry

end TermStyle.Proofs.ConsoleOutcome
