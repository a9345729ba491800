import TermStyle.Proofs.DirectiveGrammar
import TermStyle.Proofs.LoggerFamily

/-! What compiling tells the log. A word calls for one record or for none, by its letters alone, so the tier has no part in
the records: they are the same whether a word shows, is hidden by the tier or has unfit arguments. Who is listening has no
part in the output. -/

namespace TermStyle.Proofs.Diagnostics
open Text Log ActionRun Logging LoggerFamily StylerRun DirectiveGrammar

def heading (token : String) : String := .ofList (token.toList.takeWhile (· != ':'))

/-- The record that a word calls for, if it does: for its form, or else for a name that is not listed. -/
def complaint? (token : String) : Option Record :=
  if Malformed token then some (.debug Compile.logger ("Ignoring malformed directive " ++ Quoted.quoted token))
  else if heading token ∈ Attribute.table.map Prod.fst then none
  else some (.debug Compile.logger ("Ignoring unknown attribute " ++ Quoted.quoted (heading token)))

/-- The records that a text of directives calls for. -/
def complaints (directives : String) : List Record := (Blank.words directives).filterMap complaint?

section Compiling

variable {token : String} {directive : Directive}

theorem written_heading (written : Written token directive) : directive.name = heading token := by
  cases written with
  | bare named => rw [heading, takeWhile_bare named.plain, String.ofList_toList]
  | @listed name named listing =>
    have letters : (name ++ ":" ++ listing.text).toList = name.toList ++ ':' :: listing.text.toList := by simp
    rw [heading, letters, takeWhile_colon named.plain, String.ofList_toList]

theorem lookup_none_iff {entries : List (String × α)} {name : String} :
    entries.lookup name = none ↔ name ∉ entries.map Prod.fst := by
  rw [List.lookup_eq_none_iff, List.mem_map]
  constructor
  · rintro apart ⟨entry, member, rfl⟩
    exact absurd (apart entry member) (by simp)
  · intro unlisted entry member
    exact bne_iff_ne.mpr fun same => unlisted ⟨entry, member, same.symm⟩

theorem remarks_complaint (token : String) : Compile.remarks token = (complaint? token).toList := by
  by_cases malformed : Malformed token
  · have refused := malformed_refused malformed
    simp only [Compile.remarks, Compile.read, refused, complaint?, if_pos malformed, Option.toList_some]
  · obtain ⟨directive, written⟩ := exists_written malformed
    have parsed := written_parsed written
    rw [complaint?, if_neg malformed, ← written_heading written]
    cases found : Attribute.lookup? directive.name with
    | none =>
      have unlisted : directive.name ∉ Attribute.table.map Prod.fst := lookup_none_iff.mp found
      simp only [Compile.remarks, Compile.read, parsed, found, if_neg unlisted, Option.toList_some]
    | some spec =>
      have listed : directive.name ∈ Attribute.table.map Prod.fst := by
        by_contra unlisted
        rw [Attribute.lookup?, lookup_none_iff.mpr unlisted] at found
        cases found
      simp only [Compile.remarks, Compile.read, parsed, found, if_pos listed, Option.toList_none]

/-- Going through the words, each adds its own record, up to the first that fails. -/
theorem tokens_records (tier : Int) (words : List String) :
    (Compile.tokens tier words).records <+: words.filterMap complaint? ∧
      ∀ made, (Compile.tokens tier words).value = .ok made →
        (Compile.tokens tier words).records = words.filterMap complaint? := by
  induction words with
  | nil => exact ⟨List.prefix_rfl, fun _ _ => rfl⟩
  | cons token rest ih =>
    have split : (token :: rest).filterMap complaint? = Compile.remarks token ++ rest.filterMap complaint? := by
      rw [remarks_complaint, List.filterMap_cons]
      cases complaint? token <;> rfl
    rw [split, Compile.tokens]
    cases Compile.sequence? tier token with
    | error error =>
      refine ⟨List.prefix_append _ _, fun made returned => ?_⟩
      cases returned
    | ok sequence =>
      refine ⟨(List.prefix_append_right_inj _).mpr ih.1, fun made returned => ?_⟩
      obtain ⟨others, later, _⟩ := ExceptSteps.map_ok_iff.mp returned
      simp only [ih.2 others later]

theorem text_records {directives out : String} {tier : Int} (returned : (Compile.text directives tier).value = .ok out) :
    (Compile.text directives tier).records = complaints directives := by
  obtain ⟨made, gone, _⟩ := ExceptSteps.map_ok_iff.mp returned
  exact (tokens_records tier _).2 made gone

theorem complaint?_diagnostic {record : Record} (called : complaint? token = some record) :
    record.level = Level.debug ∧ record.logger = Compile.logger := by
  unfold complaint? at called
  split at called
  · cases called
    exact ⟨rfl, rfl⟩
  · split at called
    · cases called
    · cases called
      exact ⟨rfl, rfl⟩

theorem text_diagnostic {directives : String} {tier : Int} {record : Record}
    (made : record ∈ (Compile.text directives tier).records) :
    record.level = Level.debug ∧ record.logger = Compile.logger := by
  have called := (tokens_records tier (Blank.words directives)).1.subset made
  obtain ⟨token, _, here⟩ := List.mem_filterMap.mp called
  exact complaint?_diagnostic here

end Compiling

/-! ## Listening -/

def keeps (level : Level) (handler : Handler) : Bool := handler.sink == .journal && !level.isBelow handler.level

/-- Records at debug severity are looked at, and one handler keeps them. -/
structure Verbose (setup : Setup) : Prop where
  on : setup.level.number ≠ 0
  low : setup.level.number ≤ Level.debug.number
  kept : setup.handlers.countP (keeps Level.debug) = 1

section Delivering

variable {world after : World} {record : Record} {session : Session} {records : List Record}

theorem deliver_journal (world : World) (record : Record) (handler : Handler) : (world.deliver record handler).1.journal =
    world.journal ++ List.replicate ([handler].countP (keeps record.level)) record := by
  rw [List.countP_singleton, keeps, World.deliver]
  split
  next below => simp [below]
  next reached =>
    dsimp only
    split
    next sink => simp [sink, reached]
    next sink _ => simp [sink, World.report]
    next sink _ =>
      rw [sink]
      split <;> exact (List.append_nil _).symm
    next elsewhere => simp [show handler.sink ≠ .journal from elsewhere]

theorem deliverAll_journal (record : Record) (handlers : List Handler) (world : World) :
    (World.deliverAll record handlers world).1.journal =
      world.journal ++ List.replicate (handlers.countP (keeps record.level)) record := by
  induction handlers generalizing world with
  | nil => simp [World.deliverAll]
  | cons handler rest ih =>
    have first : (handler :: rest).countP (keeps record.level) =
        [handler].countP (keeps record.level) + rest.countP (keeps record.level) := by
      rw [← List.countP_append, List.singleton_append]
    simp only [World.deliverAll, ih, deliver_journal, first, List.replicate_add, List.append_assoc]

theorem settles_keeps {before handler : Handler} (settles : Settles before handler) (level : Level) :
    keeps level handler = keeps level before := by
  rw [keeps, settles.sink, settles.level, keeps]

theorem settled_count {before handlers : List Handler} (settled : AllSettle before handlers) (level : Level) :
    handlers.countP (keeps level) = before.countP (keeps level) := by
  induction settled with
  | nil => rfl
  | cons head tail ih => rw [List.countP_cons, List.countP_cons, ih, settles_keeps head]

theorem Verbose.logged (verbose : Verbose world.log) (logged : Logged world after) : Verbose after.log := by
  have same : after.log.level = world.log.level := by rw [logged.rest]
  refine ⟨?_, ?_, ?_⟩
  · rw [same]
    exact verbose.on
  · rw [same]
    exact verbose.low
  · rw [settled_count logged.handlers]
    exact verbose.kept

theorem compiler_belongs (setup : Setup) : setup.belongs Compile.logger = true := by
  refine belongs_of_within (.inr ?_) ?_
  · simp [Setup.family, Compile.logger]
  · simp [Compile.logger, List.infix_cons_iff]

theorem compiler_threshold {setup : Setup} (on : setup.level.number ≠ 0) :
    setup.threshold Compile.logger = setup.level := threshold_family (compiler_belongs setup) on

/-- Where debug records are looked at, the one handler that keeps records gets each. -/
theorem emit_kept (verbose : Verbose world.log) (level : record.level = Level.debug)
    (logger : record.logger = Compile.logger) : (world.emit record).journal = world.journal ++ [record] := by
  have admitted : world.log.admits record.logger record.level = true := by
    have severe : (decide (0 < Level.debug.number)) = true := rfl
    rw [level, logger, Setup.admits, severe, compiler_threshold verbose.on, Level.isBelow,
      decide_eq_false (Int.not_lt.mpr verbose.low)]
    rfl
  have handlers : world.log.handlersOf record.logger = world.log.handlers := by
    rw [logger, Setup.handlersOf, if_pos (compiler_belongs _)]
  have some : world.log.handlers ≠ [] := by
    intro none
    have kept := verbose.kept
    rw [none] at kept
    cases kept
  have delivered := deliverAll_journal record world.log.handlers world
  rw [level, verbose.kept, List.replicate_one] at delivered
  rw [← delivered, World.emit, admitted, handlers, List.isEmpty_eq_false_iff.mpr some]
  rfl

theorem emitted_kept (verbose : Verbose session.world.log)
    (debugging : ∀ record ∈ records, record.level = Level.debug ∧ record.logger = Compile.logger) :
    (emitted records session).world.journal = session.world.journal ++ records := by
  induction records generalizing session with
  | nil => simp [emitted]
  | cons record rest ih =>
    obtain ⟨level, logger⟩ := debugging record (by simp)
    have later := ih (verbose.logged (emitted_logged [record] session)) fun other member => debugging other (by simp [member])
    have first : (emitted [record] session).world.journal = session.world.journal ++ [record] := emit_kept verbose level logger
    rw [first, List.append_assoc, List.singleton_append] at later
    exact later

theorem emitted_dropped (above : Level.debug.number < session.world.log.level.number)
    (debugging : ∀ record ∈ records, record.level = Level.debug ∧ record.logger = Compile.logger) :
    emitted records session = session := by
  induction records with
  | nil => rfl
  | cons record rest ih =>
    obtain ⟨level, logger⟩ := debugging record (by simp)
    have on : session.world.log.level.number ≠ 0 := by
      have debug : Level.debug.number = 10 := rfl
      omega
    have dropped : session.world.log.admits record.logger record.level = false := by
      rw [level, logger, Setup.admits, compiler_threshold on, Level.isBelow, decide_eq_true above]
      simp
    have later := ih fun other member => debugging other (by simp [member])
    rw [emitted, List.foldl_cons, emit_dropped dropped]
    exact later

end Delivering

/-- Compiling for a tier tells the log what the words call for, all of it if it returns and the first part of it if it
fails. A handler that keeps records gets just that, and above debug severity nothing is left behind. The output hangs on
the directives and the tier, not on the logging. -/
theorem diagnostics_untiered (directives : String) (tier : Int) (session : Session) :
    let compiled := outcome (Styler.rendered (Compile.text directives tier)) session
    let told := (Compile.text directives tier).records
    told <+: complaints directives ∧ (∀ out, compiled.1 = .ok out → told = complaints directives) ∧
      compiled.1 = (Compile.text directives tier).value.mapError (fun error => .fault (.numeral error)) ∧
      (Verbose session.world.log → compiled.2.world.journal = session.world.journal ++ told) ∧
      (Level.debug.number < session.world.log.level.number → compiled.2 = session) := by
  have run := rendered_run (text_bare directives tier) session
  have debugging : ∀ record ∈ (Compile.text directives tier).records,
      record.level = Level.debug ∧ record.logger = Compile.logger := fun _ => text_diagnostic
  rw [shown] at run
  rw [run]
  refine ⟨(tokens_records tier _).1, fun out returned => ?_, rfl, fun verbose => emitted_kept verbose debugging,
    fun above => emitted_dropped above debugging⟩
  exact text_records (ExceptSteps.mapError_ok_iff.mp returned)

private def watched : Session where
  styler := ⟨.environment, none, 0⟩
  world := { (plainSession .none).world with
    log := ⟨Level.debug, [⟨Level.notSet, .plain Formatter.messageOnly, .journal⟩], false, true, []⟩ }

/-- Malformed, unlisted, malformed, shown at both tiers, with an unfit argument, shown at one tier, unlisted. -/
private def mixed : String := ":x nope a:b:c bold color256:999 rgb:1,2,3 Bold"

private theorem mixed_complaints : (complaints mixed).map Record.text =
    ["Ignoring malformed directive ':x'", "Ignoring unknown attribute 'nope'", "Ignoring malformed directive 'a:b:c'",
      "Ignoring unknown attribute 'Bold'"] := by
  rfl

theorem diagnostics_untiered_watched :
    Verbose watched.world.log ∧ ∃ low high, outcome (Styler.rendered (Compile.text mixed 1)) watched = (.ok "\x1b[1m", low) ∧
      outcome (Styler.rendered (Compile.text mixed 3)) watched = (.ok "\x1b[1m\x1b[38;2;1;2;3m", high) ∧
      low.world.journal = high.world.journal ∧ low.world.journal.map Record.text =
        ["Ignoring malformed directive ':x'", "Ignoring unknown attribute 'nope'", "Ignoring malformed directive 'a:b:c'",
          "Ignoring unknown attribute 'Bold'"] := by
  have kept {session : Session} (verbose : Verbose session.world.log) (nothing : session.world.journal = []) {tier : Int}
      {out : String} (made : (Compile.text mixed tier).value = .ok out) :
      ∃ after, outcome (Styler.rendered (Compile.text mixed tier)) session = (.ok out, after) ∧
        after.world.journal = complaints mixed := by
    obtain ⟨-, all, value, listening, -⟩ := diagnostics_untiered mixed tier session
    rw [made, ExceptSteps.mapError_ok] at value
    rw [all out value, nothing, List.nil_append] at listening
    exact ⟨_, Prod.ext value rfl, listening verbose⟩
  have verbose : Verbose watched.world.log := ⟨by decide, by decide, by decide⟩
  have basicMade : (Compile.text mixed 1).value = .ok "\x1b[1m" := by rfl
  have fullMade : (Compile.text mixed 3).value = .ok "\x1b[1m\x1b[38;2;1;2;3m" := by rfl
  obtain ⟨low, basic, few⟩ := kept verbose rfl basicMade
  obtain ⟨high, full, many⟩ := kept verbose rfl fullMade
  exact ⟨verbose, low, high, basic, full, few.trans many.symm, by rw [few, mixed_complaints]⟩

end TermStyle.Proofs.Diagnostics
