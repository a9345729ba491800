import TermStyle.Log.Painter
import TermStyle.Proofs.TierGating

/-! A painter at work. What it keeps for a tier is what it would make again, so a line is that of a plain formatter under
the name that the tier in force gives the entry, and the entry is left as it was. -/

namespace TermStyle.Proofs.PainterRun
open Log Text Compile CompileOutcome

/-- What is kept for a tier is what goes in front at that tier. -/
def Faithful (painter : Painter) : Prop :=
  ∀ tier found, painter.known.lookup tier = some found → Painter.fronts tier = .ok found

theorem fresh_faithful (format : String) (tier : Option Whole) : Faithful (.fresh format tier) := by
  intro tier found kept
  cases kept

/-- What a step comes to, with the painter and the entry it leaves. -/
def course (step : Painter.Work α) (painter : Painter) (entry : Entry) : Except Fault α × Painter × Entry :=
  step.run.run (painter, entry)

def andThen (first : Except Fault α × Painter × Entry) (next : α → Painter → Entry → Except Fault β × Painter × Entry) :
    Except Fault β × Painter × Entry :=
  match first.1 with
  | .ok value => next value first.2.1 first.2.2
  | .error fault => (.error fault, first.2)

section Steps

variable (painter : Painter) (entry : Entry)

@[simp]
theorem course_bind (step : Painter.Work α) (next : α → Painter.Work β) :
    course (step >>= next) painter entry = andThen (course step painter entry) fun value => course (next value) := by
  simp only [course, andThen, ExceptT.run_bind, StateT.run_bind]
  cases step.run.run (painter, entry) with
  | mk result left => cases result <;> rfl

@[simp]
theorem course_map (step : Painter.Work α) (f : α → β) :
    course (f <$> step) painter entry = ((course step painter entry).1.map f, (course step painter entry).2) := by
  simp only [course, ExceptT.run_map, StateT.run_map]
  rfl

@[simp]
theorem course_pure (value : α) : course (pure value) painter entry = (.ok value, painter, entry) := rfl

@[simp]
theorem course_get : course get painter entry = (.ok (painter, entry), painter, entry) := rfl

@[simp]
theorem course_change (change : Painter → Painter) :
    course (Painter.change change) painter entry = (.ok (), change painter, entry) := rfl

@[simp]
theorem course_rename (name : String) :
    course (Painter.rename name) painter entry = (.ok (), painter, { entry with levelName := name }) := rfl

@[simp]
theorem course_ofExcept (result : Except Fault α) :
    course (MonadExcept.ofExcept result) painter entry = (result, painter, entry) := by
  cases result <;> rfl

end Steps

/-- An entry has its own name again, whatever came of the step in between. -/
@[simp]
theorem course_renamed (original : String) (step : Painter.Work α) (painter : Painter) (entry : Entry) :
    course (do try step finally Painter.rename original) painter entry =
      ((course step painter entry).1, (course step painter entry).2.1,
        { (course step painter entry).2.2 with levelName := original }) := by
  change _ = ((step (painter, entry)).1, (step (painter, entry)).2.1,
    { (step (painter, entry)).2.2 with levelName := original })
  simp only [course, tryFinally, tryFinally', ExceptT.run_map, ExceptT.run_mk, StateT.run_map, StateT.run_bind]
  unfold StateT.run
  dsimp only [bind, pure]
  rcases step (painter, entry) with ⟨_ | _, left⟩
  · rfl
  · rfl

/-- The tier that a painter works at, and the painter once it is settled. -/
def settled (painter : Painter) (context : Option Detection.Context) : Except Fault (Option Whole) × Painter :=
  match painter.tier, context with
  | some tier, _ => (.ok (some tier), painter)
  | none, none => (.ok none, painter)
  | none, some context =>
    let looked := { painter with detections := painter.detections + 1 }
    match Detection.evaluate context with
    | .error fault => (.error fault, looked)
    | .ok finding => (.ok (some (.ofInt finding.tier.level)), { looked with tier := some (.ofInt finding.tier.level) })

theorem settle_course (painter : Painter) (entry : Entry) (context : Option Detection.Context) :
    course (Painter.settle context) painter entry =
      ((settled painter context).1, (settled painter context).2, entry) := by
  obtain ⟨format, tier, known, detections⟩ := painter
  cases tier with
  | some tier => cases context <;> rfl
  | none =>
    cases context with
    | none => rfl
    | some context =>
      cases found : Detection.evaluate context with
      | error fault => simp [Painter.settle, settled, andThen, found]
      | ok finding => simp [Painter.settle, settled, andThen, found, Except.map]

def front (tier : Int) (directives : String) : String := (Compile.text directives tier).value.toOption.getD ""

/-- Where all words name fixed attributes, only the lowest tier matters. -/
theorem text_fixed {directives : String}
    (fixed : ∀ token ∈ Blank.words directives, ∃ code, Compile.read token = .known (.fixed code) []) {tier : Int}
    (colored : 1 ≤ tier) : (Compile.text directives tier).value = (Compile.text directives 1).value := by
  have alike : ∀ words : List String, (∀ token ∈ words, ∃ code, Compile.read token = .known (.fixed code) []) →
      tokens tier words = tokens 1 words := by
    intro words
    induction words with
    | nil => exact fun _ => rfl
    | cons token words ih =>
      intro fixed
      obtain ⟨code, known⟩ := fixed token List.mem_cons_self
      rw [tokens, tokens, sequence?_tiered known colored, sequence?_tiered known (Int.le_refl 1),
        ih fun later member => fixed later (List.mem_cons_of_mem _ member)]
  simp only [Compile.text, sequences, alike _ fixed]

theorem directives_fixed : ∀ entry ∈ Formatter.directives,
    (∀ token ∈ Blank.words entry.2, ∃ code, Compile.read token = .known (.fixed code) []) ∧
      ∃ made, made ≠ "" ∧ (Compile.text entry.2 1).value = .ok made := by
  simp only [Formatter.directives, List.forall_mem_cons]
  refine ⟨⟨?_, "\x1b[36m", by decide, rfl⟩, ⟨?_, "\x1b[32m", by decide, rfl⟩, ⟨?_, "\x1b[33m", by decide, rfl⟩,
    ⟨?_, "\x1b[31m", by decide, rfl⟩, ⟨?_, "\x1b[1m\x1b[35m", by decide, rfl⟩, List.forall_mem_nil _⟩
  · exact List.forall_mem_singleton.mpr ⟨36, rfl⟩
  · exact List.forall_mem_singleton.mpr ⟨32, rfl⟩
  · exact List.forall_mem_singleton.mpr ⟨33, rfl⟩
  · exact List.forall_mem_singleton.mpr ⟨31, rfl⟩
  · exact List.forall_mem_cons.mpr ⟨⟨1, rfl⟩, List.forall_mem_singleton.mpr ⟨35, rfl⟩⟩

theorem front_made {name directives : String} (listed : (name, directives) ∈ Formatter.directives) (tier : Int) :
    (Compile.text directives tier).value = .ok (front tier directives) ∧ (front tier directives = "" ↔ tier ≤ 0) := by
  obtain ⟨fixed, made, filled, first⟩ := directives_fixed _ listed
  rcases Int.lt_or_le 0 tier with colored | hidden
  · have value : (Compile.text directives tier).value = .ok made := (text_fixed fixed colored).trans first
    rw [front, value]
    exact ⟨rfl, fun empty => absurd empty filled, fun hidden => absurd colored (Int.not_lt.mpr hidden)⟩
  · rw [front, TierGating.text_hidden hidden directives]
    exact ⟨rfl, fun _ => hidden, fun _ => rfl⟩

theorem mapM_made {f : α → Except ε β} {made : α → β} {items : List α} (each : ∀ item ∈ items, f item = .ok (made item)) :
    items.mapM f = .ok (items.map made) := by
  induction items with
  | nil => rfl
  | cons item rest ih =>
    rw [List.mapM_cons, each item List.mem_cons_self, ih fun later member => each later (List.mem_cons_of_mem _ member)]
    rfl

theorem fronts_made (tier : Int) :
    Painter.fronts tier = .ok (Formatter.directives.map fun entry => (entry.1, front tier entry.2)) := by
  refine mapM_made fun entry listed => ?_
  rw [(front_made listed tier).1]
  rfl

theorem lookup_front (tier : Int) (name : String) :
    (Formatter.directives.map fun entry => (entry.1, front tier entry.2)).lookup name =
      (Formatter.directives.lookup name).map (front tier) := by
  induction Formatter.directives with
  | nil => rfl
  | cons entry rest ih =>
    rw [List.map_cons, List.lookup_cons, List.lookup_cons, ih]
    split <;> rfl

/-- A table that was made for a tier may be kept, and is found again. -/
theorem frontsAt_course {painter : Painter} (faithful : Faithful painter) (entry : Entry) (tier : Int) :
    ∃ known, Faithful { painter with known } ∧ course (Painter.frontsAt tier) painter entry =
      (.ok (Formatter.directives.map fun entry => (entry.1, front tier entry.2)), { painter with known }, entry) := by
  cases kept : painter.known.lookup tier with
  | some found =>
    have same := (faithful tier found kept).symm.trans (fronts_made tier)
    refine ⟨painter.known, faithful, ?_⟩
    simp [Painter.frontsAt, andThen, kept, Except.ok.inj same]
  | none =>
    refine ⟨(tier, Formatter.directives.map fun entry => (entry.1, front tier entry.2)) :: painter.known, ?_, ?_⟩
    · intro other found kept
      rw [List.lookup_cons] at kept
      split at kept
      next same =>
        rw [eq_of_beq same, fronts_made, Option.some.inj kept]
      next => exact faithful other found kept
    · simp [Painter.frontsAt, andThen, kept, fronts_made, Except.map]

/-- The name under which a line shows an entry at a tier. -/
def named (tier : Option Whole) (name : String) : Except Numeral.Error String :=
  match tier, Formatter.directives.lookup name with
  | some tier, some directives =>
    if 1 ≤ tier.number then
      (Compile.text directives tier.number).value.map fun front => front ++ name ++ Sequence.reset.render
    else .ok name
  | _, _ => .ok name

/-- What goes in front of a name, if the line shows it under another. -/
def front? (tier : Option Whole) (name : String) : Option String :=
  tier.bind fun tier => ((Formatter.directives.lookup name).map (front tier.number)).filter (!·.isEmpty)

def wrapped (name : String) : Option String → String
  | none => name
  | some front => front ++ name ++ Sequence.reset.render

theorem front?_spec (tier : Whole) (name : String) :
    (tier.number ≤ 0 → front? (some tier) name = none) ∧
      named (some tier) name = .ok (wrapped name (front? (some tier) name)) := by
  unfold front? named
  cases looked : Formatter.directives.lookup name with
  | none => exact ⟨fun _ => rfl, rfl⟩
  | some directives =>
    obtain ⟨before, behind, split, _⟩ := List.lookup_eq_some_iff.mp looked
    obtain ⟨value, empty⟩ := front_made (split ▸ List.mem_append_right before List.mem_cons_self) tier.number
    dsimp only
    by_cases colored : 1 ≤ tier.number
    · have filled : front tier.number directives ≠ "" := fun nothing => by
        have hidden := empty.mp nothing
        omega
      refine ⟨fun hidden => absurd hidden (by omega), ?_⟩
      rw [if_pos colored, value]
      simp [wrapped, Except.map, Option.filter_some, filled]
    · have hidden := empty.mpr (by omega)
      simp [wrapped, Option.filter_some, colored, hidden]

/-- The tier that is found out in some surroundings. -/
def detected? (context : Detection.Context) : Option Whole :=
  (Detection.evaluate context).toOption.map fun finding => .ofInt finding.tier.level

theorem settled_painter (painter : Painter) (context : Option Detection.Context) :
    (settled painter context).2 = { painter with
      tier := painter.tier.or (context.bind detected?)
      detections := painter.detections + if painter.tier.isNone && context.isSome then 1 else 0 } := by
  obtain ⟨format, tier, known, detections⟩ := painter
  cases tier with
  | some tier => cases context <;> rfl
  | none =>
    cases context with
    | none => rfl
    | some context =>
      cases found : Detection.evaluate context with
      | error fault => simp [settled, detected?, found, Except.toOption]
      | ok finding => simp [settled, detected?, found, Except.toOption]

/-- Where the surroundings have an answer, if they are asked, the painter works at the tier it is left with. -/
theorem settled_resolved {painter : Painter} {context : Option Detection.Context}
    (resolved : painter.tier = none → ∀ surroundings, context = some surroundings →
      ∃ finding, Detection.evaluate surroundings = .ok finding) :
    (settled painter context).1 = .ok (settled painter context).2.tier := by
  obtain ⟨format, tier, known, detections⟩ := painter
  cases tier with
  | some tier => cases context <;> rfl
  | none =>
    cases context with
    | none => rfl
    | some context =>
      obtain ⟨finding, found⟩ := resolved rfl context rfl
      simp [settled, found]

theorem settled_failed {painter : Painter} {context : Detection.Context} {fault : Fault} (unknown : painter.tier = none)
    (failed : Detection.evaluate context = .error fault) : (settled painter (some context)).1 = .error fault := by
  simp [settled, unknown, failed]

theorem settled_faithful {painter : Painter} (faithful : Faithful painter) (context : Option Detection.Context) :
    Faithful (settled painter context).2 := by
  rw [settled_painter]
  exact faithful

section Writing

variable {painter : Painter} (faithful : Faithful painter) (entry : Entry) (context : Option Detection.Context)

include faithful

theorem front?_course {tier : Option Whole} (found : (settled painter context).1 = .ok tier) :
    ∃ known, Faithful { (settled painter context).2 with known } ∧ course (Painter.front? context) painter entry =
      (.ok (front? tier entry.levelName), { (settled painter context).2 with known }, entry) := by
  have kept := settled_faithful faithful context
  have settling := settle_course painter entry context
  rw [found] at settling
  rw [Painter.front?, course_bind, settling, andThen]
  cases tier with
  | none => exact ⟨(settled painter context).2.known, kept, rfl⟩
  | some tier =>
    by_cases none : tier.number = 0
    · refine ⟨(settled painter context).2.known, kept, ?_⟩
      rw [(front?_spec tier entry.levelName).1 (by omega)]
      simp [none]
    · obtain ⟨known, later, tabled⟩ := frontsAt_course kept entry tier.number
      refine ⟨known, later, ?_⟩
      simp [none, tabled, andThen, lookup_front, front?, Except.map]

omit faithful in
theorem line_stopped {fault : Fault} (failed : (settled painter context).1 = .error fault) (stamp : Stamp) :
    painter.line entry context stamp = (.error fault, (settled painter context).2, entry) := by
  have settling := settle_course painter entry context
  rw [failed] at settling
  change course (Painter.write context stamp) painter entry = _
  rw [Painter.write, course_bind, Painter.front?, course_bind, settling]
  rfl

theorem line_written {tier : Option Whole} (found : (settled painter context).1 = .ok tier) (stamp : Stamp) :
    ∃ known shown, Faithful { (settled painter context).2 with known } ∧ named tier entry.levelName = .ok shown ∧
      painter.line entry context stamp =
        (Formatter.layOut painter.format entry.record shown stamp, { (settled painter context).2 with known }, entry) := by
  obtain ⟨known, later, looked⟩ := front?_course faithful entry context found
  have shown : named tier entry.levelName = .ok (wrapped entry.levelName (front? tier entry.levelName)) := by
    cases tier with
    | none => rfl
    | some tier => exact (front?_spec tier entry.levelName).2
  refine ⟨known, _, later, shown, ?_⟩
  change course (Painter.write context stamp) painter entry = _
  rw [Painter.write, course_bind, looked, andThen]
  cases front? tier entry.levelName with
  | none => simp [Painter.layOut, andThen, wrapped, settled_painter]
  | some front => simp [Painter.layOut, andThen, wrapped, settled_painter]

/-- Whatever comes of the line, the painter is the one that settled, but for what it keeps, and the entry is as it was. -/
theorem line_leaves (stamp : Stamp) :
    ∃ known, Faithful { (settled painter context).2 with known } ∧
      (painter.line entry context stamp).2 = ({ (settled painter context).2 with known }, entry) := by
  cases found : (settled painter context).1 with
  | error fault =>
    rw [line_stopped entry context found stamp]
    exact ⟨_, settled_faithful faithful context, rfl⟩
  | ok tier =>
    obtain ⟨known, _, later, _, written⟩ := line_written faithful entry context found stamp
    rw [written]
    exact ⟨known, later, rfl⟩

omit faithful in
theorem settled_alike {other : Painter} (same : other.tier = painter.tier) :
    (settled other context).1 = (settled painter context).1 := by
  unfold settled
  rw [same]
  split
  · rfl
  · rfl
  · dsimp only
    split <;> rfl

theorem line_alike {other : Painter} (otherFaithful : Faithful other)
    (alike : other.format = painter.format ∧ other.tier = painter.tier) (stamp : Stamp) :
    (other.line entry context stamp).1 = (painter.line entry context stamp).1 := by
  have same := settled_alike context alike.2
  cases found : (settled painter context).1 with
  | error fault => rw [line_stopped entry context found stamp, line_stopped entry context (same.trans found) stamp]
  | ok tier =>
    obtain ⟨_, shown, _, name, written⟩ := line_written faithful entry context found stamp
    obtain ⟨_, otherShown, _, otherName, otherWritten⟩ := line_written otherFaithful entry context (same.trans found) stamp
    obtain rfl := Except.ok.inj (name.symm.trans otherName)
    rw [written, otherWritten, alike.1]

omit faithful in
theorem colored_left (format : String) (tier : Option Whole) (record : Record) (stamp : Stamp) :
    ((Formatter.colored format tier).line context record stamp).2 = .colored format (tier.or (context.bind detected?)) := by
  obtain ⟨_, _, left⟩ := line_leaves (fresh_faithful format tier) (.ofRecord record) context stamp
  change ((Painter.fresh format tier).line (.ofRecord record) context stamp).2.1.formatter = _
  rw [left, settled_painter]
  rfl

/-- A formatter that keeps only its tier writes the same line, and carries on alike. -/
theorem formatter_line (record : Record) (stamp : Stamp) :
    painter.formatter.line context record stamp =
      ((painter.line (.ofRecord record) context stamp).1, (painter.line (.ofRecord record) context stamp).2.1.formatter) := by
  have fresh := fresh_faithful painter.format painter.tier
  obtain ⟨_, _, left⟩ := line_leaves faithful (.ofRecord record) context stamp
  refine Prod.ext (line_alike faithful _ context fresh ⟨rfl, rfl⟩ stamp) ?_
  rw [Painter.formatter, colored_left, left, settled_painter]
  rfl

end Writing

end TermStyle.Proofs.PainterRun
