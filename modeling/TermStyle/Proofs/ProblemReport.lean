import TermStyle.CommandLine.Perform
import TermStyle.Proofs.ActionFailure

/-! Reporting a problem. The message goes to the error stream, emphasised for the tier that is reached, and the run ends
with code one. Only a detail that has no text, or a terminal that detection cannot judge, keeps it from being told. -/

namespace TermStyle.Proofs.ProblemReport
open CommandLine Log ActionRun ActionFailure Logging StylerRun

/-- A problem cannot be told: one of its details has no text, or there is no tier to emphasise it for. -/
inductive Mute (problem : Problem) (session : Session) : Fault → Prop
  | oversized (oversized : problem.isOversized = true) : Mute problem session .oversized
  | blind {fault} (fits : problem.isOversized = false) (unset : session.styler.tier = none)
      (unfound : sounded session = .error fault) : Mute problem session fault

variable {problem : Problem} {session : Session} {failure : Failure}

def failed : Record := .debug logger "huecode failed"

theorem failed_noted (session : Session) : Returns (Action.note [failed]) session () (emitted [failed] session) :=
  note_bare (fun _ member => List.mem_singleton.mp member ▸ rfl) session

theorem failed_alike (session : Session) : Alike session (emitted [failed] session) :=
  Alike.ofLogged rfl (emitted_logged [failed] session)

/-- The message of a report, for the tier that is reached. -/
def told (problem : Problem) : Action Ending := do
  Action.report (← Styler.emphasized Emphasis.error ("Error: " ++ problem.text))
  return ⟨1, false⟩

theorem reported_eq (problem : Problem) : Perform.reported problem = (do
    Action.note [failed]
    if problem.isOversized then do
      throw (.fault .oversized)
      told problem
    else told problem) := rfl

theorem reported_oversized (oversized : problem.isOversized = true) (session : Session) :
    Fails (Perform.reported problem) session failure ↔ failure = .fault .oversized := by
  rw [reported_eq, fails_behind (failed_noted session), if_pos oversized, fails_bind, fails_throw, or_iff_left]
  rintro ⟨_, _, thrown, _⟩
  cases thrown

theorem reported_fits (fits : problem.isOversized = false) (session : Session) :
    outcome (Perform.reported problem) session = outcome (told problem) (emitted [failed] session) := by
  rw [reported_eq, outcome_bind, show outcome (Action.note [failed]) session = _ from failed_noted session, andThen_ok, fits]
  rfl

theorem reported_fails : Fails (Perform.reported problem) session failure ↔
    ∃ fault, Mute problem session fault ∧ failure = .fault fault := by
  have alike := failed_alike session
  cases size : problem.isOversized with
  | true =>
    rw [reported_oversized size]
    constructor
    · rintro rfl
      exact ⟨_, .oversized size, rfl⟩
    · rintro ⟨fault, mute, rfl⟩
      cases mute with
      | oversized => rfl
      | blind fits => cases size.symm.trans fits
  | false =>
    have telling : Fails (Perform.reported problem) session failure ↔ Fails Styler.level (emitted [failed] session) failure := by
      rw [Fails, reported_fits size]
      change Fails (told problem) _ failure ↔ _
      have reporting (text : String) : Sure (Action.report text >>= fun _ => pure (⟨1, false⟩ : Ending)) :=
        sure_bind (sure_inWorld _) fun _ => sure_pure _
      rw [told, fails_bind_sure reporting, Styler.emphasized, fails_bind_sure fun _ => sure_pure _]
    rw [telling, level_fails, alike.styler, alike.sounded]
    constructor
    · rintro ⟨unset, fault, unfound, rfl⟩
      exact ⟨fault, .blind size unset unfound, rfl⟩
    · rintro ⟨fault, mute, rfl⟩
      cases mute with
      | oversized longer => cases size.symm.trans longer
      | blind _ unset unfound => exact ⟨unset, fault, unfound, rfl⟩

/-- A report that ends well ends with code one and the message, emphasised for the tier that is reached. -/
theorem reported_returns {ending : Ending} {after : Session} (returned : Returns (Perform.reported problem) session ending after) :
    ending = ⟨1, false⟩ ∧ ∃ tier world, reached session = .ok tier.level ∧ Logged session.world world ∧
      after.world = world.report (Emphasis.error ("Error: " ++ problem.text) tier) := by
  cases size : problem.isOversized with
  | true => exact absurd ((reported_oversized size session).mpr rfl) (returns_unfailing returned)
  | false =>
    have telling : Returns (told problem) (emitted [failed] session) ending after := by
      rw [Returns, ← reported_fits size]
      exact returned
    obtain ⟨message, middle, emphasised, telling⟩ := returns_bind.mp telling
    obtain ⟨tier, level, rfl⟩ := returns_map.mp emphasised
    obtain ⟨_, last, reporting, ended⟩ := returns_bind.mp telling
    obtain ⟨rfl, rfl⟩ := returns_pure.mp ended
    cases reporting
    refine ⟨rfl, tier, middle.world, ?_, (emitted_logged [failed] session).trans (level_settles level).2.2, rfl⟩
    rw [← (failed_alike session).reached]
    exact level_reached level

end TermStyle.Proofs.ProblemReport
