import TermStyle.Proofs.SeparatedText
import TermStyle.Proofs.StylerRun

/-! Directives taken apart at blanks. A text compiles word by word, so what stands in front of blanks and what stands
behind them compile each by itself, one after the other. Attribute groups are put together with a blank between them, so
it does not matter how the words of a styling are distributed over its groups. -/

namespace TermStyle.Proofs.GroupedDirectives
open Text Log Compile ActionRun Logging StylerRun SeparatedText ExceptSteps

/-- One result behind another. Where the first fails, the second is not begun. -/
def followed [Append α] (first second : Noted (Except ε α)) : Noted (Except ε α) :=
  match first.value with
  | .error error => ⟨.error error, first.records⟩
  | .ok front => ⟨second.value.map (front ++ ·), first.records ++ second.records⟩

theorem followed_nothing (second : Noted (Except ε (List α))) : followed ⟨.ok [], []⟩ second = second := by
  obtain ⟨value, records⟩ := second
  cases value with
  | error error => rfl
  | ok back => rfl

theorem followed_assoc (first second third : Noted (Except ε (List α))) :
    followed (followed first second) third = followed first (followed second third) := by
  obtain ⟨value, records⟩ := first
  cases value with
  | error error => rfl
  | ok front =>
    obtain ⟨value, others⟩ := second
    cases value with
    | error error => rfl
    | ok middle =>
      obtain ⟨value, rest⟩ := third
      cases value with
      | error error => simp [followed, Except.map]
      | ok back => simp [followed, Except.map]

section Words

theorem words_apart (front back : String) {gap : String} (filled : gap ≠ "")
    (blank : ∀ c ∈ gap.toList, Blank.isBlank c = true) :
    Blank.words (front ++ gap ++ back) = Blank.words front ++ Blank.words back := by
  have stretch : gap.toList ≠ [] := fun empty => filled (String.toList_eq_nil_iff.mp empty)
  rw [Blank.words, String.toList_append, String.toList_append, List.append_assoc, fields_apart _ stretch blank,
    List.map_append]
  rfl

theorem words_groups (groups : List String) : Blank.words (" ".intercalate groups) = groups.flatMap Blank.words := by
  have space : " ".toList = [' '] := rfl
  rw [Blank.words, String.toList_intercalate, space, fields_intercalate rfl, List.flatMap_map, List.map_flatMap]
  rfl

variable (tier : Int)

theorem tokens_cons (token : String) (rest : List String) :
    tokens tier (token :: rest) =
      followed ⟨(sequence? tier token).map Option.toList, remarks token⟩ (tokens tier rest) := by
  rw [tokens]
  cases sequence? tier token with
  | error error => rfl
  | ok made => rfl

theorem tokens_append (first second : List String) :
    tokens tier (first ++ second) = followed (tokens tier first) (tokens tier second) := by
  induction first with
  | nil => exact (followed_nothing _).symm
  | cons token rest ih => rw [List.cons_append, tokens_cons, tokens_cons, ih, followed_assoc]

theorem text_apart {whole front back : String} (apart : Blank.words whole = Blank.words front ++ Blank.words back) :
    Compile.text whole tier = followed (Compile.text front tier) (Compile.text back tier) := by
  simp only [Compile.text, Compile.sequences, apart, tokens_append]
  cases tokens tier (Blank.words front) with
  | mk value records =>
    cases value with
    | error error => rfl
    | ok sequences =>
      cases tokens tier (Blank.words back) with
      | mk value others =>
        cases value with
        | error error => rfl
        | ok rest => simp [followed, Except.map, Sequence.renderAll]

end Words

/-- The groups of a styling compiled one by one, and the text behind them. -/
def inGroups (text : String) (groups : List String) : Action String := do
  let fronts ← groups.mapM Styler.compile
  return String.join fronts ++ text

section Sessions

variable {session : Session} {tier : Tier}

theorem emitted_append (first second : List Record) (session : Session) :
    emitted (first ++ second) session = emitted second (emitted first session) := by
  rw [emitted, List.foldl_append]
  rfl

theorem shown_followed (first second : Noted (Except Numeral.Error String)) (session : Session) :
    shown (followed first second) session = andThen (shown first session) fun front after =>
      ((shown second after).1.map (front ++ ·), (shown second after).2) := by
  obtain ⟨value, records⟩ := first
  cases value with
  | error error => rfl
  | ok front =>
    obtain ⟨value, others⟩ := second
    cases value with
    | error error => simp [followed, shown, Except.map, emitted_append]
    | ok back => simp [followed, shown, Except.map, emitted_append]

theorem compile_inForce (inForce : session.styler.tier = some tier) (directives : String) :
    outcome (Styler.compile directives) session = shown (Compile.text directives tier.level) session := by
  rw [compile_run, level_kept inForce, andThen_ok]

theorem groups_run (groups : List String) (session : Session) (inForce : session.styler.tier = some tier) :
    outcome (do return String.join (← groups.mapM Styler.compile)) session =
      shown (Compile.text (" ".intercalate groups) tier.level) session := by
  induction groups generalizing session with
  | nil => rfl
  | cons group rest ih =>
    have apart : Blank.words (" ".intercalate (group :: rest)) =
        Blank.words group ++ Blank.words (" ".intercalate rest) := by
      rw [words_groups, words_groups, List.flatMap_cons]
    rw [text_apart _ apart, shown_followed, List.mapM_cons, bind_assoc, outcome_bind, compile_inForce inForce]
    have later := ih (emitted (Compile.text group tier.level).records session) inForce
    rw [shown]
    cases (Compile.text group tier.level).value with
    | error error => rfl
    | ok front =>
      rw [mapError_ok, andThen_ok, andThen_ok, ← later]
      simp only [bind_assoc, pure_bind, outcome_map, String.join_cons]
      cases (outcome (rest.mapM Styler.compile) (emitted (Compile.text group tier.level).records session)).1 with
      | error failure => rfl
      | ok backs => rfl

theorem rawApply_inForce (inForce : session.styler.tier = some tier) (text : String) (groups : List String) :
    outcome (Styler.rawApply text groups) session = outcome (inGroups text groups) session := by
  have together := groups_run groups session inForce
  rw [outcome_map] at together
  rw [Styler.rawApply, inGroups, outcome_map, outcome_map, compile_inForce inForce, ← together]
  cases (outcome (groups.mapM Styler.compile) session).1 with
  | error failure => rfl
  | ok fronts => rfl

/-- The first compilation reads the tier, and all go on with it. -/
theorem rawApply_groups (text group : String) (rest : List String) (session : Session) :
    outcome (Styler.rawApply text (group :: rest)) session = outcome (inGroups text (group :: rest)) session := by
  cases read : outcome Styler.level session with
  | mk result middle =>
    cases result with
    | error failure =>
      simp only [Styler.rawApply, inGroups, List.mapM_cons, outcome_bind, compile_run, read, andThen_error]
    | ok tier =>
      have inForce := (level_settles read).1
      have settled (directives : String) :
          outcome (Styler.compile directives) session = outcome (Styler.compile directives) middle := by
        rw [compile_run, read, andThen_ok, compile_inForce inForce]
      have together := rawApply_inForce inForce text (group :: rest)
      simp only [Styler.rawApply, inGroups, List.mapM_cons, bind_assoc, outcome_bind, settled] at together ⊢
      exact together

theorem rawApply_groupless (text : String) (session : Session) :
    outcome (Styler.rawApply text []) session = outcome (do let _ ← Styler.level; return text) session := by
  rw [Styler.rawApply, outcome_map, outcome_map, compile_run]
  cases outcome Styler.level session with
  | mk result middle =>
    cases result with
    | error failure => rfl
    | ok tier =>
      have nothing : Compile.text (" ".intercalate []) tier.level = ⟨.ok "", []⟩ := rfl
      rw [andThen_ok, nothing]
      simp [shown, emitted, Except.map]

theorem rawApply_regrouped (text : String) {groups others : List String}
    (same : groups.flatMap Blank.words = others.flatMap Blank.words) :
    Styler.rawApply text groups = Styler.rawApply text others := by
  have compiled : Compile.text (" ".intercalate groups) = Compile.text (" ".intercalate others) := by
    funext tier
    simp only [Compile.text, Compile.sequences, words_groups, same]
  simp only [Styler.rawApply, Styler.compile, compiled]

end Sessions

/-- A text compiles in parts wherever it has blanks: to what stands in front of them, then to what stands behind them,
and the first part that fails is where it ends. So a styling with attribute groups is that of its groups one by one, in
front of the text. Without groups there is nothing in front of the text, but the tier is read all the same. How the words
are distributed over groups does not matter. -/
theorem compiling_in_parts :
    (∀ front gap back tier, gap ≠ "" → (∀ c ∈ gap.toList, Blank.isBlank c = true) →
      Compile.text (front ++ gap ++ back) tier = followed (Compile.text front tier) (Compile.text back tier)) ∧
    (∀ text groups session, groups ≠ [] →
      outcome (Styler.rawApply text groups) session = outcome (inGroups text groups) session) ∧
    (∀ text session,
      outcome (Styler.rawApply text []) session = outcome (do let _ ← Styler.level; return text) session) ∧
    (∀ text groups others, groups.flatMap Blank.words = others.flatMap Blank.words →
      Styler.rawApply text groups = Styler.rawApply text others) := by
  refine ⟨?_, ?_, rawApply_groupless, fun text groups others => rawApply_regrouped text⟩
  · intro front gap back tier filled blank
    exact text_apart tier (words_apart front back filled blank)
  · intro text groups session filled
    obtain ⟨group, rest, rfl⟩ := List.exists_cons_of_ne_nil filled
    exact rawApply_groups text group rest session

theorem compiling_in_parts_regrouped :
    ["color256:9\u2003bold", "", "dim "].flatMap Blank.words = ["color256:9", " bold\tdim"].flatMap Blank.words ∧
    Styler.rawApply "x" ["color256:9\u2003bold", "", "dim "] = Styler.rawApply "x" ["color256:9", " bold\tdim"] := by
  have same : ["color256:9\u2003bold", "", "dim "].flatMap Blank.words =
      ["color256:9", " bold\tdim"].flatMap Blank.words := by rfl
  exact ⟨same, compiling_in_parts.2.2.2 "x" _ _ same⟩

/-- No tier is in force, and the detector answers with a truth value, which is none. -/
def undecided : Session := { plainSession .none with styler := ⟨.script fun _ => .bool true, none, 0⟩ }

theorem groupless_fails :
    (outcome (inGroups "x" []) undecided).1 = .ok "x" ∧
    (outcome (Styler.rawApply "x" []) undecided).1 ≠ (outcome (inGroups "x" []) undecided).1 := by
  have refused : sounded undecided = .error (.notTier (.bool true)) := by rfl
  have failed := rawApply_groupless "x" undecided
  rw [outcome_bind, level_unsounded rfl refused, andThen_error] at failed
  have whole : (outcome (inGroups "x" []) undecided).1 = .ok "x" := rfl
  rw [failed, whole]
  simp

end TermStyle.Proofs.GroupedDirectives
