import Mathlib.Data.List.Forall2
import TermStyle.Proofs.ActionRun
import TermStyle.Proofs.PainterRun

/-! What logging leaves alone. A record may reach the streams, a file and a journal, and a coloured formatter that
meets its first record settles its tier. Nothing else changes, so nothing that is decided later depends on what was
logged before. -/

namespace TermStyle.Proofs.Logging
open Log ActionRun ExceptSteps PainterRun

/-- A handler at most gets the tier that its formatter still lacked. -/
structure Settles (before after : Handler) : Prop where
  level : after.level = before.level
  sink : after.sink = before.sink
  formatter : after.formatter = before.formatter ∨
    ∃ format tier, before.formatter = .colored format none ∧ after.formatter = .colored format (some tier)

theorem Settles.refl (handler : Handler) : Settles handler handler := ⟨rfl, rfl, Or.inl rfl⟩

theorem Settles.trans {before middle after : Handler} (first : Settles before middle) (second : Settles middle after) :
    Settles before after := by
  refine ⟨second.level.trans first.level, second.sink.trans first.sink, ?_⟩
  rcases second.formatter with same | ⟨format, tier, unsettled, settled⟩
  · rw [same]
    exact first.formatter
  · rcases first.formatter with same | ⟨_, _, _, already⟩
    · exact Or.inr ⟨format, tier, same ▸ unsettled, settled⟩
    · rw [already] at unsettled
      cases unsettled

abbrev AllSettle : List Handler → List Handler → Prop := List.Forall₂ Settles

theorem AllSettle.refl (handlers : List Handler) : AllSettle handlers handlers :=
  List.forall₂_same.mpr fun handler _ => Settles.refl handler

theorem AllSettle.trans {before middle after : List Handler} (first : AllSettle before middle)
    (second : AllSettle middle after) : AllSettle before after := by
  induction first generalizing after with
  | nil => exact second
  | cons head tail ih =>
    obtain ⟨handler, rest, settles, others, rfl⟩ := List.forall₂_cons_left_iff.mp second
    exact .cons (head.trans settles) (ih others)

/-- Logging writes, and settles handlers; the rest of the world stays as it is. -/
structure Logged (before after : World) : Prop where
  rest : after = { before with
    store := after.store, errors := after.errors, journal := after.journal
    log := { before.log with handlers := after.log.handlers } }
  handlers : AllSettle before.log.handlers after.log.handlers

theorem Logged.refl (world : World) : Logged world world := ⟨rfl, AllSettle.refl _⟩

theorem Logged.trans {before middle after : World} (first : Logged before middle) (second : Logged middle after) :
    Logged before after := by
  refine ⟨?_, first.handlers.trans second.handlers⟩
  rw [second.rest, first.rest]

theorem Logged.interrupting {before after : World} (logged : Logged before after) :
    after.interrupting = before.interrupting := by rw [logged.rest]

theorem Logged.output {before after : World} (logged : Logged before after) : after.output = before.output := by
  rw [logged.rest]

theorem line_settles (handler : Handler) (context : Option Detection.Context) (record : Record) (stamp : Stamp) :
    Settles handler { handler with formatter := (handler.formatter.line context record stamp).2 } := by
  refine ⟨rfl, rfl, ?_⟩
  cases handler.formatter with
  | plain format => exact Or.inl rfl
  | colored format tier =>
    rw [colored_left]
    cases tier with
    | some tier => exact Or.inl rfl
    | none =>
      rw [Option.none_or]
      cases context.bind detected? with
      | none => exact Or.inl rfl
      | some found => exact Or.inr ⟨format, found, rfl, rfl⟩

theorem deliver_logged (world : World) (record : Record) (handler : Handler) :
    (∃ store errors journal, (world.deliver record handler).1 = { world with store, errors, journal }) ∧
      Settles handler (world.deliver record handler).2 := by
  have settles := line_settles handler (some world.detection) record (world.stamp record)
  unfold World.deliver
  split
  · exact ⟨⟨_, _, _, rfl⟩, Settles.refl handler⟩
  · dsimp only
    split
    · exact ⟨⟨_, _, _, rfl⟩, Settles.refl handler⟩
    · exact ⟨⟨_, _, _, rfl⟩, settles⟩
    · split
      · exact ⟨⟨_, _, _, rfl⟩, settles⟩
      · exact ⟨⟨_, _, _, rfl⟩, settles⟩
    · exact ⟨⟨_, _, _, rfl⟩, settles⟩

theorem deliverAll_logged (record : Record) (handlers : List Handler) (world : World) :
    (∃ store errors journal, (World.deliverAll record handlers world).1 = { world with store, errors, journal }) ∧
      AllSettle handlers (World.deliverAll record handlers world).2 := by
  induction handlers generalizing world with
  | nil => exact ⟨⟨_, _, _, rfl⟩, .nil⟩
  | cons handler rest ih =>
    obtain ⟨⟨store, errors, journal, written⟩, settles⟩ := deliver_logged world record handler
    obtain ⟨⟨laterStore, laterErrors, laterJournal, laterWritten⟩, others⟩ := ih (world.deliver record handler).1
    refine ⟨⟨laterStore, laterErrors, laterJournal, ?_⟩, .cons settles others⟩
    rw [World.deliverAll]
    dsimp only
    rw [laterWritten, written]

theorem emit_logged (world : World) (record : Record) : Logged world (world.emit record) := by
  unfold World.emit
  split
  · exact Logged.refl world
  · split
    · unfold World.lastResort
      split
      · exact Logged.refl world
      · split
        · exact ⟨rfl, AllSettle.refl _⟩
        · exact Logged.refl world
    · obtain ⟨⟨store, errors, journal, written⟩, settles⟩ := deliverAll_logged record world.log.handlers world
      dsimp only
      rw [written]
      exact ⟨rfl, settles⟩

def emitted (records : List Record) (session : Session) : Session :=
  { session with world := records.foldl World.emit session.world }

theorem emitted_logged (records : List Record) (session : Session) :
    Logged session.world (emitted records session).world := by
  induction records generalizing session with
  | nil => exact Logged.refl _
  | cons record rest ih =>
    have first := emit_logged session.world record
    exact first.trans (ih { session with world := session.world.emit record })

theorem note_refused {record : Record} {fault : Fault} {session : Session}
    (refused : session.world.refusal? record = some fault) (rest : List Record) :
    outcome (Action.note (record :: rest)) session = (.error (.fault fault), session) := by
  simp only [Action.note, List.forM_eq_forM, List.forM_cons, outcome_bind, outcome_world, andThen_ok, refused,
    outcome_throw, andThen_error]

theorem note_emitted {record : Record} {session : Session} (admitted : session.world.refusal? record = none)
    (rest : List Record) :
    outcome (Action.note (record :: rest)) session = outcome (Action.note rest) (emitted [record] session) := by
  simp only [Action.note, List.forM_eq_forM, List.forM_cons, outcome_bind, outcome_world, andThen_ok, admitted,
    outcome_inWorld, emitted, List.foldl_cons, List.foldl_nil]

theorem bare_admitted (world : World) {record : Record} (bare : record.args = []) : world.refusal? record = none := by
  have formatted : record.message = .ok (record.text ++ (record.cause.map Fault.summary).getD "") := by
    simp [Record.message, bare]
  unfold World.refusal?
  simp [formatted]

theorem note_bare {records : List Record} (bare : ∀ record ∈ records, record.args = []) (session : Session) :
    outcome (Action.note records) session = (.ok (), emitted records session) := by
  induction records generalizing session with
  | nil => rfl
  | cons record rest ih =>
    rw [note_emitted (bare_admitted _ (bare record (by simp)))]
    exact ih (fun later member => bare later (by simp [member])) _

theorem note_single {record : Record} (bare : record.args = []) (session : Session) :
    outcome (Action.note [record]) session = (.ok (), emitted [record] session) :=
  note_bare (fun _ member => List.mem_singleton.mp member ▸ bare) session

theorem noted_run {result : Noted (Except Fault α)} (bare : ∀ record ∈ result.records, record.args = [])
    (session : Session) :
    outcome (Action.noted result) session = (result.value.mapError .fault, emitted result.records session) := by
  simp only [Action.noted, outcome_bind, note_bare bare, andThen_ok, outcome_lift]

/-- Whether or not noting gets to the end, what it did up to there is logging. -/
theorem note_logged (records : List Record) (session : Session) :
    (outcome (Action.note records) session).2.styler = session.styler ∧
      Logged session.world (outcome (Action.note records) session).2.world := by
  induction records generalizing session with
  | nil => exact ⟨rfl, Logged.refl _⟩
  | cons record rest ih =>
    cases refused : session.world.refusal? record with
    | some fault =>
      rw [note_refused refused]
      exact ⟨rfl, Logged.refl _⟩
    | none =>
      rw [note_emitted refused]
      obtain ⟨styler, logged⟩ := ih (emitted [record] session)
      exact ⟨styler, (emitted_logged [record] session).trans logged⟩

end TermStyle.Proofs.Logging
