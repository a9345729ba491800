import TermStyle.Compile
import TermStyle.Proofs.ArgumentReading

/-! What compiling a text of directives comes to. It stops exactly at words with a channel that is too long to
be read. Without such a word every word contributes its own sequence or nothing, whatever stands around it. -/

namespace TermStyle.Proofs.CompileOutcome
open Text Compile ArgumentReading NumeralReading

/-- The tier shows the word's attribute, the number of arguments fits, and one of them is overlong. -/
def Unreadable (tier : Int) (token : String) : Prop :=
  ∃ spec args, Compile.read token = .known spec args ∧ spec.minTier ≤ tier ∧
    args.length = channelCount spec ∧ ∃ arg ∈ args, Overlong arg

/-- What a word contributes: nothing where it fails. -/
def shown (tier : Int) (token : String) : Option Sequence :=
  match sequence? tier token with
  | .ok sequence => sequence
  | .error _ => none

def image (tier : Int) (token : String) : String := ((shown tier token).map Sequence.render).getD ""

/-- From its lowest tier on the tier plays no part in what an attribute makes. -/
theorem sequence?_tiered {tier : Int} {token : String} {spec : Attribute} {args : List String}
    (known : Compile.read token = .known spec args) (tiered : spec.minTier ≤ tier) :
    sequence? tier token = spec.sequence? args := by
  unfold sequence?
  simp only [known, Int.not_lt.mpr tiered, if_false]

theorem sequence?_cases (tier : Int) (token : String) :
    (∃ spec args, Compile.read token = .known spec args ∧ spec.minTier ≤ tier ∧
      sequence? tier token = spec.sequence? args) ∨ sequence? tier token = .ok none := by
  cases reading : Compile.read token with
  | known spec args =>
    by_cases tiered : spec.minTier ≤ tier
    · exact Or.inl ⟨spec, args, rfl, tiered, sequence?_tiered reading tiered⟩
    · right
      simp only [sequence?, reading, Int.not_le.mp tiered, if_true]
  | malformed => exact Or.inr (by simp only [sequence?, reading])
  | unknown name => exact Or.inr (by simp only [sequence?, reading])

private theorem sequence?_error {tier : Int} {token : String} {error : Numeral.Error}
    (failed : sequence? tier token = .error error) :
    Unreadable tier token ∧ ∃ digits, Numeral.digitLimit < digits ∧ error = .tooLong digits := by
  rcases sequence?_cases tier token with ⟨spec, args, known, tiered, same⟩ | nothing
  · rw [same] at failed
    obtain ⟨count, arg, member, overlong, cause⟩ := ArgumentReading.sequence?_error failed
    exact ⟨⟨spec, args, known, tiered, count, arg, member, overlong⟩, _, overlong.long, cause⟩
  · rw [nothing] at failed
    cases failed

private theorem sequence?_fails {tier : Int} {token : String} (unreadable : Unreadable tier token) :
    ∃ error, sequence? tier token = .error error := by
  obtain ⟨spec, args, known, tiered, count, arg, member, overlong⟩ := unreadable
  rw [sequence?_tiered known tiered]
  exact ArgumentReading.sequence?_fails count member overlong

theorem sequence?_shown {tier : Int} {token : String} (readable : ¬ Unreadable tier token) :
    sequence? tier token = .ok (shown tier token) := by
  cases outcome : sequence? tier token with
  | ok sequence => simp only [shown, outcome]
  | error error => exact absurd (sequence?_error outcome).1 readable

/-- A word contributes only what its attribute, shown at the tier, makes of fitting arguments. -/
theorem shown_known {tier : Int} {token : String} {sequence : Sequence} (contributed : shown tier token = some sequence) :
    ∃ spec args, Compile.read token = .known spec args ∧ spec.minTier ≤ tier ∧ spec.sequence? args = .ok (some sequence) := by
  rcases sequence?_cases tier token with ⟨spec, args, known, tiered, same⟩ | nothing
  · refine ⟨spec, args, known, tiered, ?_⟩
    rw [shown, same] at contributed
    cases outcome : spec.sequence? args with
    | ok found =>
      simp only [outcome] at contributed
      rw [contributed]
    | error error => simp [outcome] at contributed
  · simp [shown, nothing] at contributed

theorem tokens_returns {tier : Int} {words : List String} (readable : ∀ token ∈ words, ¬ Unreadable tier token) :
    (tokens tier words).value = .ok (words.filterMap (shown tier)) := by
  induction words with
  | nil => rfl
  | cons token words ih =>
    have first := sequence?_shown (readable token (by simp))
    have rest := ih fun word member => readable word (by simp [member])
    simp only [tokens, first, rest, Except.map, List.filterMap_cons]
    cases shown tier token <;> rfl

/-- Going through the words stops at the first that fails, so no later word can hide a failure. -/
theorem tokens_fails {tier : Int} {words : List String} {token : String} (member : token ∈ words)
    (unreadable : Unreadable tier token) : ∃ error, (tokens tier words).value = .error error := by
  induction words with
  | nil => simp at member
  | cons first words ih =>
    simp only [tokens]
    cases outcome : sequence? tier first with
    | error error => exact ⟨error, rfl⟩
    | ok sequence =>
      rcases List.mem_cons.mp member with rfl | deeper
      · obtain ⟨error, failed⟩ := sequence?_fails unreadable
        rw [outcome] at failed
        cases failed
      · obtain ⟨error, rest⟩ := ih deeper
        exact ⟨error, by rw [rest]; rfl⟩

theorem tokens_error {tier : Int} {words : List String} {error : Numeral.Error}
    (failed : (tokens tier words).value = .error error) :
    (∃ token ∈ words, Unreadable tier token) ∧ ∃ digits, Numeral.digitLimit < digits ∧ error = .tooLong digits := by
  induction words with
  | nil => simp [tokens] at failed
  | cons token words ih =>
    simp only [tokens] at failed
    cases outcome : sequence? tier token with
    | error cause =>
      simp only [outcome, Except.error.injEq] at failed
      obtain ⟨unreadable, long⟩ := sequence?_error outcome
      exact ⟨⟨token, by simp, unreadable⟩, failed ▸ long⟩
    | ok sequence =>
      simp only [outcome] at failed
      cases rest : (tokens tier words).value with
      | error cause =>
        simp only [rest, Except.map, Except.error.injEq] at failed
        obtain ⟨⟨word, member, unreadable⟩, long⟩ := ih (failed ▸ rest)
        exact ⟨⟨word, by simp [member], unreadable⟩, long⟩
      | ok sequences => simp [rest, Except.map] at failed

theorem text_value (directives : String) (tier : Int) :
    (Compile.text directives tier).value = (tokens tier (Blank.words directives)).value.map Sequence.renderAll := rfl

theorem text_returns {directives : String} {tier : Int}
    (readable : ∀ token ∈ Blank.words directives, ¬ Unreadable tier token) :
    (Compile.text directives tier).value =
      .ok (Sequence.renderAll ((Blank.words directives).filterMap (shown tier))) := by
  rw [text_value, tokens_returns readable]
  rfl

theorem text_fails {directives : String} {tier : Int} {token : String} (member : token ∈ Blank.words directives)
    (unreadable : Unreadable tier token) : ∃ error, (Compile.text directives tier).value = .error error := by
  obtain ⟨error, failed⟩ := tokens_fails member unreadable
  exact ⟨error, by rw [text_value, failed]; rfl⟩

/-- A failure is that of some word, and always that of a numeral beyond the limit. -/
theorem text_error {directives : String} {tier : Int} {error : Numeral.Error}
    (failed : (Compile.text directives tier).value = .error error) :
    (∃ token ∈ Blank.words directives, Unreadable tier token) ∧
      ∃ digits, Numeral.digitLimit < digits ∧ error = .tooLong digits := by
  rw [text_value] at failed
  cases outcome : (tokens tier (Blank.words directives)).value with
  | ok sequences => simp [outcome, Except.map] at failed
  | error cause =>
    simp only [outcome, Except.map, Except.error.injEq] at failed
    exact failed ▸ tokens_error outcome

theorem text_readable {directives : String} {tier : Int} {out : String}
    (returned : (Compile.text directives tier).value = .ok out) :
    ∀ token ∈ Blank.words directives, ¬ Unreadable tier token := by
  intro token member unreadable
  obtain ⟨error, failed⟩ := text_fails member unreadable
  rw [returned] at failed
  cases failed

theorem text_shown {directives : String} {tier : Int} {out : String}
    (returned : (Compile.text directives tier).value = .ok out) :
    out = Sequence.renderAll ((Blank.words directives).filterMap (shown tier)) := by
  rw [text_returns (text_readable returned)] at returned
  exact (Except.ok.inj returned).symm

theorem join_images (tier : Int) (words : List String) :
    String.join (words.map (image tier)) = Sequence.renderAll (words.filterMap (shown tier)) := by
  induction words with
  | nil => rfl
  | cons token words ih =>
    simp only [List.map_cons, String.join_cons, ih, List.filterMap_cons, image]
    cases shown tier token <;> simp [Sequence.renderAll]

/-- Compiling returns exactly when no word is unreadable. It then joins what the words contribute, and only a
word with a fitting attribute, shown at the tier, contributes anything. A failure is always that of a numeral
beyond the limit. -/
theorem text_returns_iff (directives : String) (tier : Int) :
    ((∃ out, (Compile.text directives tier).value = .ok out) ↔
      ∀ token ∈ Blank.words directives, ¬ Unreadable tier token) ∧
    (∀ out, (Compile.text directives tier).value = .ok out →
      out = String.join ((Blank.words directives).map (image tier))) ∧
    (∀ token, image tier token ≠ "" → ∃ spec args sequence,
      Compile.read token = .known spec args ∧ spec.minTier ≤ tier ∧
      spec.sequence? args = .ok (some sequence) ∧ image tier token = sequence.render) ∧
    (∀ error, (Compile.text directives tier).value = .error error →
      ∃ digits, Numeral.digitLimit < digits ∧ error = .tooLong digits) := by
  refine ⟨⟨?_, ?_⟩, ?_, ?_, ?_⟩
  · rintro ⟨out, returned⟩
    exact text_readable returned
  · intro readable
    exact ⟨_, text_returns readable⟩
  · intro out returned
    rw [join_images]
    exact text_shown returned
  · intro token contributes
    cases found : shown tier token with
    | none => simp [image, found] at contributes
    | some sequence =>
      obtain ⟨spec, args, known, admitted, made⟩ := shown_known found
      exact ⟨spec, args, sequence, known, admitted, made, by simp [image, found]⟩
  · intro error failed
    exact (text_error failed).2

theorem words_solid {token : String} (filled : token ≠ "") (solid : ∀ c ∈ token.toList, Blank.isBlank c = false) :
    Blank.words token = [token] := by
  have run := Blank.fields_run (filled ∘ String.toList_eq_nil_iff.mp) solid
  rw [Blank.words, run, List.map_singleton, String.ofList_toList]

theorem text_known {token : String} {spec : Attribute} {args : List String} (single : Blank.words token = [token])
    (known : Compile.read token = .known spec args) (tier : Int) :
    Compile.text token tier =
      ⟨(if tier < spec.minTier then .ok none else spec.sequence? args).map fun made => Sequence.renderAll made.toList, []⟩ := by
  have quiet : Compile.remarks token = [] := by rw [Compile.remarks, known]
  have made : Compile.sequence? tier token = if tier < spec.minTier then .ok none else spec.sequence? args := by
    rw [Compile.sequence?, known]
  rw [Compile.text, Compile.sequences, single, Compile.tokens, made, quiet]
  cases (if tier < spec.minTier then .ok none else spec.sequence? args) with
  | error error => rfl
  | ok sequence => simp [Compile.tokens, Except.map]

/-- For any argument, so that nothing has to be computed on the long one. -/
private theorem read_palette {arg : String} (filled : arg.toList ≠ [])
    (plain : ∀ c ∈ arg.toList, c ≠ ':' ∧ Directive.isSeparator c = false) :
    Compile.read ("color256:" ++ arg) = .known (.palette .foreground) [arg] := by
  have shape (rest : List Char) : Directive.cut ("color256:".toList ++ rest) = ("color256".toList, some rest) := rfl
  have single : ':' ∉ arg.toList := fun member => (plain ':' member).1 rfl
  have run := Blank.fields_run filled fun c member => (plain c member).2
  have parsed : Directive.parse? ("color256:" ++ arg) = some ⟨"color256", [arg]⟩ := by
    unfold Directive.parse?
    rw [String.toList_append, shape]
    simp [single, run]
  have listed : Attribute.lookup? "color256" = some (.palette .foreground) := rfl
  simp only [Compile.read, parsed, listed]

private theorem palette_ones_unreadable : Unreadable 2 ("color256:" ++ ones) := by
  have plain : ∀ c ∈ ones.toList, c ≠ ':' ∧ Directive.isSeparator c = false := ones_all (by decide)
  have filled : ones.toList ≠ [] := List.ne_nil_of_length_pos (Nat.zero_lt_of_lt ones_long)
  have overlong : Overlong ones := ⟨ones_all (by decide), ones_long⟩
  exact ⟨.palette .foreground, [ones], read_palette filled plain, by decide, rfl, ones, by simp, overlong⟩

private theorem palette_ones_words : Blank.words ("color256:" ++ ones) = ["color256:" ++ ones] := by
  have unbroken : ∀ c ∈ ("color256:" ++ ones).toList, Blank.isBlank c = false := by
    intro c member
    rw [String.toList_append, List.mem_append] at member
    rcases member with name | index
    · have named : "color256:".toList.all (!Blank.isBlank ·) = true := rfl
      simpa using List.all_eq_true.mp named c name
    · exact ones_all (p := fun c => Blank.isBlank c = false) (by decide) c index
  exact words_solid (by simp) unbroken

/-- Not every text compiles: one digit too many is enough. -/
theorem palette_ones_fails : ¬ ∃ out, (Compile.text ("color256:" ++ ones) 2).value = .ok out := by
  rintro ⟨out, returned⟩
  refine text_readable returned _ ?_ palette_ones_unreadable
  rw [palette_ones_words]
  exact List.mem_singleton_self _

end TermStyle.Proofs.CompileOutcome
