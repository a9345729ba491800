import TermStyle.Platform.Console
import TermStyle.Proofs.StylerRun

/-! What talking to the platform leaves alone. A step of the set-up notes records, or has the platform answer something,
and what holds of each of these steps holds of the whole. So the styler and what detection looks at stay as they are, and
everything that is asked of the platform is answered by the platform itself, in order. -/

namespace TermStyle.Proofs.ConsoleRun
open ActionRun Logging StylerRun Log Platform Console

/-- What the platform makes of something that is asked of it, and the platform behind that. -/
def Answers (before : Platform) : Event → Platform → Prop
  | .command call outcome, after => before.run call.command call.timeout = (outcome, after)
  | .request (.handle number) answer, after => before.handle number = (answer, after)
  | .request (.mode handle mode) answer, after => before.setMode handle mode = (answer, after)
  | .question answer, after => before.add (.question answer) = after

abbrev onPlatform (session : Session) (platform : Platform) : Session :=
  { session with world := { session.world with platform } }

section Talking

/-- Sessions are related across a record that is noted and across an answer of the platform. -/
structure Talking (related : Session → Session → Prop) : Prop where
  noted : ∀ records, Leads related (Action.note records)
  answered : ∀ session event after, Answers session.world.platform event after → related session (onPlatform session after)

variable {related : Session → Session → Prop} (talking : Talking related)

include talking

theorem tryCommand_leads (command : List String) (timeout : Value) : Leads related (tryCommand command timeout) :=
  fun session => talking.answered session (.command ⟨command, timeout⟩ _) _ rfl

variable [IsPreorder Session related]

theorem runCommand_leads (command : List String) (timeout : Value) : Leads related (runCommand command timeout) := by
  refine leads_bind (tryCommand_leads talking command timeout) fun outcome => ?_
  split
  · exact leads_pure _
  · split
    · exact leads_throw _
    · split <;> exact leads_throw _

theorem absorbed_leads (words : Problem → Record) {action : Action α} (leads : Leads related action) :
    Leads related (Query.absorbed words action) := by
  refine leads_bind (leads_tryCatch (leads_bind leads fun _ => leads_pure _) fun failure => ?_) fun early => ?_
  · cases failure with
    | problem problem => exact leads_bind (talking.noted _) fun _ => leads_pure _
    | fault fault => exact leads_bind (leads_throw _) fun _ => leads_pure _
    | interrupt => exact leads_bind (leads_throw _) fun _ => leads_pure _
  · cases early <;> exact leads_pure _

theorem succeeds_leads (command : List String) : Leads related (succeeds command) :=
  leads_bind (absorbed_leads talking _ (runCommand_leads talking command patience)) fun _ => leads_pure _

theorem enableStream_leads (number : Int) : Leads related (enableStream number) := by
  intro session
  have handle := talking.answered session (.request (.handle number) _) _ rfl
  have mode := talking.answered (onPlatform session (session.world.platform.handle number).2)
    (.request (.mode (session.world.platform.handle number).1 vtMode) _) _ rfl
  simp only [enableStream, outcome_bind, outcome_world, andThen_ok]
  refine IsTrans.trans _ _ _ handle (IsTrans.trans _ _ _ mode ?_)
  have told (result : Int) : Leads related (do
      if result = 0 then Action.note [.debug logger s!"SetConsoleMode failed for std handle {number}"]
      return result != 0) := by
    split
    · exact leads_bind (talking.noted _) fun _ => leads_pure _
    · exact leads_pure _
  exact told _ _

theorem enableStreams_leads : Leads related enableStreams :=
  leads_bind (enableStream_leads talking _) fun _ => leads_bind (enableStream_leads talking _) fun _ => leads_pure _

theorem ask_leads (answer : Except Failure Bool) : Leads related (Console.ask answer) :=
  leads_bind (fun session => talking.answered session (.question answer) _ rfl) fun _ => leads_ofExcept answer

theorem enableRegistry_leads (skipRegistry : Bool) (confirm : Option (Except Failure Bool)) :
    Leads related (enableRegistry skipRegistry confirm) := by
  unfold enableRegistry
  split
  · exact leads_pure _
  · refine leads_bind (succeeds_leads talking _) fun found => ?_
    split
    · exact leads_pure _
    · split
      · exact leads_pure _
      next answer =>
        refine leads_bind (ask_leads talking answer) fun agreed => ?_
        split
        · exact leads_bind (succeeds_leads talking _) fun _ => leads_pure _
        · exact leads_pure _

theorem enableAsking_leads (given : Option Facts) (skipRegistry : Bool) (confirm : Option (Except Failure Bool)) :
    Leads related (enableAsking given skipRegistry confirm) := by
  have registry : Leads related (enableRegistry skipRegistry confirm >>= fun found =>
      pure (⟨found.1, .registry, found.2⟩ : Report)) :=
    leads_bind (enableRegistry_leads talking skipRegistry confirm) fun _ => leads_pure _
  refine leads_bind leads_world fun world => ?_
  dsimp only
  split
  · exact leads_pure _
  · split
    · exact leads_bind leads_world fun _ => leads_bind (succeeds_leads talking _) fun _ => leads_pure _
    · refine leads_bind leads_world fun world => ?_
      split
      · exact leads_bind (enableStreams_leads talking) fun _ => leads_pure _
      · split
        · exact leads_bind (talking.noted _) fun _ => registry
        · exact registry

end Talking

/-- Nothing happened but logging and talking to the platform. -/
structure Aside (before after : Session) : Prop extends Alike before after where
  handlers : AllSettle before.world.log.handlers after.world.log.handlers
  output : after.world.output = before.world.output
  interrupting : after.world.interrupting = before.world.interrupting

instance : IsPreorder Session Aside where
  refl _ := ⟨⟨rfl, rfl, rfl, rfl⟩, AllSettle.refl _, rfl, rfl⟩
  trans _ _ _ first second := ⟨⟨second.styler.trans first.styler, second.env.trans first.env,
    second.onWindows.trans first.onWindows, second.version.trans first.version⟩, first.handlers.trans second.handlers,
    second.output.trans first.output, second.interrupting.trans first.interrupting⟩

theorem note_aside (records : List Record) : Leads Aside (Action.note records) := by
  intro session
  obtain ⟨styler, logged⟩ := note_logged records session
  exact ⟨Alike.ofLogged styler logged, logged.handlers, logged.output, logged.interrupting⟩

theorem setMode_knows (platform : Platform) (handle mode : Int) :
    (platform.setMode handle mode).2.onWindows = platform.onWindows ∧
      (platform.setMode handle mode).2.version = platform.version := by
  unfold Platform.setMode
  split <;> exact ⟨rfl, rfl⟩

/-- Whatever is asked of it, a platform knows the same of itself. -/
theorem answers_knows {before after : Platform} {event : Event} (answers : Answers before event after) :
    after.onWindows = before.onWindows ∧ after.version = before.version := by
  cases event with
  | command call outcome =>
    obtain ⟨_, rfl⟩ := Prod.mk.inj answers
    exact ⟨rfl, rfl⟩
  | request request answer =>
    cases request with
    | handle number =>
      obtain ⟨_, rfl⟩ := Prod.mk.inj answers
      exact ⟨rfl, rfl⟩
    | mode handle mode =>
      have knows := setMode_knows before handle mode
      rwa [show before.setMode handle mode = _ from answers] at knows
  | question answer =>
    obtain rfl := answers
    exact ⟨rfl, rfl⟩

theorem talking_aside : Talking Aside where
  noted := note_aside
  answered _ _ _ answers :=
    have knows := answers_knows answers
    ⟨⟨rfl, rfl, knows.1, knows.2⟩, AllSettle.refl _, rfl, rfl⟩

theorem enable_aside (skipRegistry : Bool) (consent : Option Bool) : Leads Aside (enable skipRegistry consent) :=
  enableAsking_leads talking_aside none skipRegistry (consent.map .ok)

end TermStyle.Proofs.ConsoleRun
