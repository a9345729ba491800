import TermStyle.Proofs.SettlingOutcome

/-! Runs without a log file. Where no handler writes to a file, logging leaves the files alone, and so does all that a run
does but writing settings. -/

namespace TermStyle.Proofs.UnfiledRun
open CommandLine Log ActionRun Logging ConsoleRun RunFrame

/-- No handler writes to a file. -/
def Unfiled (handlers : List Handler) : Prop :=
  ∀ handler ∈ handlers, ∀ path limit backups, handler.sink ≠ .file path limit backups

/-- Where no handler wrote to a file before, the files are the same, and still none does. -/
def Untouched (before after : Session) : Prop :=
  Unfiled before.world.log.handlers → after.world.store = before.world.store ∧ Unfiled after.world.log.handlers

instance : IsPreorder Session Untouched where
  refl _ unfiled := ⟨rfl, unfiled⟩
  trans _ _ _ first second unfiled :=
    have middle := first unfiled
    have last := second middle.2
    ⟨last.1.trans middle.1, last.2⟩

section Writing

variable {world : World} {record : Record}

theorem deliver_unfiled {handler : Handler} (unfiled : ∀ path limit backups, handler.sink ≠ .file path limit backups) :
    (world.deliver record handler).1.store = world.store := by
  unfold World.deliver
  split
  · rfl
  · dsimp only
    split
    · rfl
    · rfl
    next file _ => exact absurd file (unfiled _ _ _)
    · rfl

theorem deliverAll_unfiled {handlers : List Handler} (unfiled : Unfiled handlers) :
    (World.deliverAll record handlers world).1.store = world.store := by
  induction handlers generalizing world with
  | nil => rfl
  | cons handler rest ih =>
    have first : (world.deliver record handler).1.store = world.store := deliver_unfiled (unfiled handler (by simp))
    exact (ih fun later member => unfiled later (by simp [member])).trans first

theorem emit_unfiled (unfiled : Unfiled world.log.handlers) : (world.emit record).store = world.store := by
  unfold World.emit
  split
  · rfl
  · split
    · unfold World.lastResort
      split
      · rfl
      · split <;> rfl
    · exact deliverAll_unfiled unfiled

theorem settle_unfiled {before after : List Handler} (settle : AllSettle before after) (unfiled : Unfiled before) :
    Unfiled after := by
  induction settle with
  | nil => exact unfiled
  | cons settles _ ih =>
    refine List.forall_mem_cons.mpr ⟨?_, ih (List.forall_mem_cons.mp unfiled).2⟩
    rw [settles.sink]
    exact (List.forall_mem_cons.mp unfiled).1

end Writing

theorem emitted_untouched (records : List Record) (session : Session) : Untouched session (emitted records session) := by
  induction records generalizing session with
  | nil => exact refl session
  | cons record rest ih =>
    refine IsTrans.trans _ _ _ (fun unfiled => ?_) (ih (emitted [record] session))
    exact ⟨emit_unfiled unfiled, settle_unfiled (emit_logged session.world record).handlers unfiled⟩

theorem note_untouched (records : List Record) : Leads Untouched (Action.note records) := by
  intro session
  induction records generalizing session with
  | nil => exact refl session
  | cons record rest ih =>
    cases refused : session.world.refusal? record with
    | some fault =>
      rw [note_refused refused]
      exact refl session
    | none =>
      rw [note_emitted refused]
      exact IsTrans.trans _ _ _ (emitted_untouched [record] session) (ih _)

theorem performing_untouched : Performing Untouched where
  noted := note_untouched
  styled _ _ _ unfiled := ⟨rfl, unfiled⟩
  restricted _ _ unfiled := ⟨rfl, List.forall_mem_map.mpr unfiled⟩
  painted _ _ unfiled := ⟨rfl, List.forall_mem_map.mpr unfiled⟩
  shown _ _ _ unfiled := ⟨rfl, unfiled⟩

theorem talking_untouched : Talking Untouched where
  noted := note_untouched
  answered _ _ _ _ unfiled := ⟨rfl, unfiled⟩

theorem configure_untouched (globals : Globals) : Leads Untouched (Perform.configure globals) :=
  configure_leads performing_untouched.toSettling (enableAsking_leads talking_untouched none true none) globals

end TermStyle.Proofs.UnfiledRun
