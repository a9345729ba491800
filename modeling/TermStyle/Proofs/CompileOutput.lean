import TermStyle.Proofs.CompileOutcome
import TermStyle.Proofs.SequenceText

/-! What reaches the output of compiling. Whatever the directives hold, the output is made of complete sequences
that the tier admits, so no text can be brought into a terminal through them. -/

namespace TermStyle.Proofs.CompileOutput
open Text CompileOutcome SequenceText

theorem read_listed {token : String} {spec : Attribute} {args : List String}
    (known : Compile.read token = .known spec args) : ∃ name, (name, spec) ∈ Attribute.table := by
  unfold Compile.read at known
  split at known
  next => cases known
  next directive _ =>
    split at known
    next => cases known
    next found =>
      cases known
      obtain ⟨before, after, table, _⟩ := List.lookup_eq_some_iff.mp found
      exact ⟨directive.name, by simp [table]⟩

/-- An attribute makes sequences of one kind only, and all of them need its lowest tier. -/
theorem made_shows {spec : Attribute} {args : List String} {sequence : Sequence} {tier : Int} {name : String}
    (listed : (name, spec) ∈ Attribute.table) (tiered : spec.minTier ≤ tier)
    (made : spec.sequence? args = .ok (some sequence)) : Shows tier sequence := by
  cases spec with
  | fixed code =>
    simp only [Attribute.sequence?, Except.ok.injEq, Option.some.injEq] at made
    subst made
    exact ⟨tiered, name, listed⟩
  | palette layer =>
    simp only [Attribute.sequence?] at made
    split at made
    next arg =>
      cases read : Attribute.channel? arg with
      | error error => simp [read, bind, Except.bind] at made
      | ok channel =>
        simp only [read, bind, Except.bind, pure, Except.pure, Except.ok.injEq, Option.map_eq_some_iff] at made
        obtain ⟨index, _, rfl⟩ := made
        exact tiered
    next => cases made
  | channels layer =>
    simp only [Attribute.sequence?] at made
    split at made
    next red green blue =>
      cases read : List.mapM Attribute.channel? [red, green, blue] with
      | error error => simp [read, bind, Except.bind] at made
      | ok channels =>
        simp only [read, bind, Except.bind] at made
        split at made
        · simp only [pure, Except.pure, Except.ok.injEq, Option.some.injEq] at made
          subst made
          exact tiered
        · simp [pure, Except.pure] at made
    next => cases made
  | hex layer =>
    simp only [Attribute.sequence?] at made
    split at made
    next arg =>
      simp only [Except.ok.injEq, Option.map_eq_some_iff] at made
      obtain ⟨color, _, rfl⟩ := made
      exact tiered
    next => cases made

theorem shown_shows {tier : Int} {token : String} {sequence : Sequence} (contributed : shown tier token = some sequence) :
    Shows tier sequence := by
  obtain ⟨spec, args, known, tiered, made⟩ := shown_known contributed
  obtain ⟨name, listed⟩ := read_listed known
  exact made_shows listed tiered made

theorem render_plain {sequence : Sequence} {c : Char} (member : c ∈ sequence.render.toList) :
    c = '\x1b' ∨ c = '[' ∨ c = 'm' ∨ isParameter c = true := by
  rw [render_toList] at member
  simp only [List.mem_cons, List.mem_append, List.not_mem_nil, or_false] at member
  rcases member with escape | bracket | inside | final
  · exact Or.inl escape
  · exact Or.inr (Or.inl bracket)
  · exact Or.inr (Or.inr (Or.inr (parameterText_fit inside)))
  · exact Or.inr (Or.inr (Or.inl final))

theorem renderAll_plain {sequences : List Sequence} {c : Char} (member : c ∈ (Sequence.renderAll sequences).toList) :
    c = '\x1b' ∨ c = '[' ∨ c = 'm' ∨ isParameter c = true := by
  rw [Sequence.renderAll, String.toList_join, List.mem_flatMap] at member
  obtain ⟨text, inside, here⟩ := member
  obtain ⟨sequence, _, rfl⟩ := List.mem_map.mp inside
  exact render_plain here

/-- A row of complete sequences, each with parameters that the tier admits; empty where no tier shows anything;
and with no characters but those that sequences are written with. -/
structure Sealed (tier : Int) (out : String) : Prop where
  row : ∃ inside : List String, (∀ parameters ∈ inside, Admitted tier parameters) ∧
    out = String.join (inside.map fun parameters => "\x1b[" ++ parameters ++ "m")
  hidden : tier ≤ 0 → out = ""
  plain : ∀ c ∈ out.toList, c = '\x1b' ∨ c = '[' ∨ c = 'm' ∨ isParameter c = true

theorem renderAll_sealed {tier : Int} {sequences : List Sequence} (visible : ∀ sequence ∈ sequences, Shows tier sequence) :
    Sealed tier (Sequence.renderAll sequences) := by
  refine ⟨⟨sequences.map parameterText, ?_, ?_⟩, ?_, ?_⟩
  · intro parameters member
    obtain ⟨sequence, inside, rfl⟩ := List.mem_map.mp member
    exact (visible sequence inside).admitted
  · rw [List.map_map]
    rfl
  · intro hidden
    cases sequences with
    | nil => rfl
    | cons sequence rest =>
      have tiered := (visible sequence (by simp)).tier_pos
      omega
  · exact fun c => renderAll_plain

/-- No text gets through: whenever compiling returns, its output is sealed. -/
theorem output_sealed {directives : String} {tier : Int} {out : String}
    (returned : (Compile.text directives tier).value = .ok out) : Sealed tier out := by
  rw [text_shown returned]
  apply renderAll_sealed
  intro sequence member
  obtain ⟨token, _, contributed⟩ := List.mem_filterMap.mp member
  exact shown_shows contributed

theorem output_sealed_hostile :
    (Compile.text "bold\x1b[5m rgb:1,2,3 color256:007\tbg-color256:٣ color256:\x1b[2J bold:]0;x" 2).value =
      .ok "\x1b[38;5;7m\x1b[1m" ∧
    Sealed 2 "\x1b[38;5;7m\x1b[1m" := by
  have returned : (Compile.text "bold\x1b[5m rgb:1,2,3 color256:007\tbg-color256:٣ color256:\x1b[2J bold:]0;x" 2).value =
      .ok "\x1b[38;5;7m\x1b[1m" := by rfl
  exact ⟨returned, output_sealed returned⟩

end TermStyle.Proofs.CompileOutput
