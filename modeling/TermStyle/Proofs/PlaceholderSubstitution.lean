import TermStyle.Proofs.StylerRun
import TermStyle.Proofs.TemplateText

/-! Placeholders are replaced once, from left to right. Every text is in exactly one way literals with placeholders
between them, and expanding puts the images of the placeholders in their places and leaves the literals alone. -/

namespace TermStyle.Proofs.PlaceholderSubstitution
open Log ActionRun Logging StylerRun Template TemplateText

/-- The text holds a percent sign with an opening brace behind it. -/
abbrev HasOpening (text : List Char) : Prop := ['%', '{'] <:+: text

/-- The template is written as the text. A placeholder ends at its first closing brace, nothing opens in a literal in
front of a placeholder, and what opens in the last literal is never closed. -/
structure Decomposes (text : List Char) (template : Template) : Prop where
  written : template.text = text
  closed : ∀ part ∈ template.parts, '}' ∉ part.2
  literal : ∀ part ∈ template.parts, ¬ HasOpening part.1
  ending : ∀ before after, template.tail = before ++ '%' :: '{' :: after → '}' ∉ after

theorem text_parts (literal directives : List Char) (more : List (List Char × List Char)) (tail : List Char) :
    Template.text ⟨(literal, directives) :: more, tail⟩ =
      literal ++ '%' :: '{' :: (directives ++ '}' :: Template.text ⟨more, tail⟩) := by
  simp [Template.text]

theorem hasOpening_cons {c : Char} {text : List Char} :
    HasOpening (c :: text) ↔ (c = '%' ∧ text.head? = some '{') ∨ HasOpening text := by
  rw [HasOpening, List.infix_cons_iff]
  cases text with
  | nil => simp
  | cons d rest => simp [List.cons_prefix_cons, eq_comm]

theorem cut?_inside {inside : List Char} (closed : '}' ∉ inside) (after : List Char) :
    cut? (inside ++ '}' :: after) = some (inside, after) := by
  induction inside with
  | nil => rfl
  | cons c rest ih =>
    have other : c ≠ '}' := by
      rintro rfl
      exact closed (by simp)
    rw [List.cons_append, cut?, if_neg other, ih fun member => closed (by simp [member])]
    rfl

section Building

variable {text directives : List Char} {template : Template}

theorem decomposes_unclosed (unclosed : '}' ∉ text) : Decomposes text ⟨[], text⟩ := by
  refine ⟨rfl, by simp, by simp, ?_⟩
  rintro before after rfl member
  exact unclosed (by simp [member])

theorem decomposes_closed (closed : '}' ∉ directives) (rest : Decomposes text template) :
    Decomposes ('%' :: '{' :: (directives ++ '}' :: text)) ⟨([], directives) :: template.parts, template.tail⟩ := by
  refine ⟨?_, ?_, ?_, rest.ending⟩
  · rw [text_closed, rest.written]
  · intro part member
    rcases List.mem_cons.mp member with rfl | later
    · exact closed
    · exact rest.closed part later
  · intro part member
    rcases List.mem_cons.mp member with rfl | later
    · simp [HasOpening]
    · exact rest.literal part later

theorem decomposes_cons {c : Char} (plain : ¬ Opens (c :: text)) (rest : Decomposes text template) :
    Decomposes (c :: text) (template.cons c) := by
  obtain ⟨written, closed, literal, ending⟩ := rest
  obtain ⟨parts, tail⟩ := template
  cases parts with
  | nil =>
    obtain rfl : tail = text := written
    refine ⟨rfl, by simp [Template.cons], by simp [Template.cons], ?_⟩
    intro before after same
    cases before with
    | nil => exact absurd ⟨after, same⟩ plain
    | cons d before => exact ending before after (List.cons.inj same).2
  | cons part more =>
    obtain ⟨front, directives⟩ := part
    refine ⟨by rw [text_cons, written], ?_, ?_, ending⟩
    · simpa [Template.cons] using closed
    · intro part member
      rcases List.mem_cons.mp member with rfl | later
      · rw [hasOpening_cons]
        rintro (⟨rfl, opens⟩ | inside)
        · -- The literal goes on with the brace, and so does the text.
          obtain ⟨rest, rfl⟩ : ∃ rest, front = '{' :: rest := by
            cases front with
            | nil => cases opens
            | cons d rest => exact ⟨rest, by rw [Option.some.inj opens]⟩
          exact plain ⟨_, by rw [← written, text_parts]; rfl⟩
        · exact literal (front, directives) (by simp) inside
      · exact literal part (by simp [later])

end Building

theorem parse_decomposes (text : List Char) : Decomposes text (parse text) := by
  fun_induction parse text with
  | case1 => exact decomposes_unclosed (by simp)
  | case2 rest directives after found behind ih =>
    obtain ⟨shape, closed⟩ := cut?_found found
    rw [shape]
    exact decomposes_closed closed ih
  | case3 rest unclosed => exact decomposes_unclosed (by simp [cut?_none_iff.mp unclosed])
  | case4 c rest literal ih =>
    refine decomposes_cons ?_ ih
    rintro ⟨more, same⟩
    exact literal more (List.cons.inj same).1 (List.cons.inj same).2

section Unique

variable {text literal directives tail : List Char} {more : List (List Char × List Char)}

theorem Decomposes.rest (decomposes : Decomposes text ⟨(literal, directives) :: more, tail⟩) :
    Decomposes (Template.text ⟨more, tail⟩) ⟨more, tail⟩ :=
  ⟨rfl, fun part member => decomposes.closed part (by simp [member]),
    fun part member => decomposes.literal part (by simp [member]), decomposes.ending⟩

theorem Decomposes.head {rest : List Char}
    (decomposes : Decomposes ('%' :: '{' :: rest) ⟨(literal, directives) :: more, tail⟩) :
    literal = [] ∧ rest = directives ++ '}' :: Template.text ⟨more, tail⟩ := by
  have written := decomposes.written
  rw [text_parts] at written
  match literal, written with
  | [], written => exact ⟨rfl, by simpa using written.symm⟩
  | [c], written => simp at written
  | c :: d :: behind, written =>
    have opening : HasOpening (c :: d :: behind) := by
      simp only [List.cons_append, List.cons.injEq] at written
      rw [written.1, written.2.1]
      exact ⟨[], behind, rfl⟩
    exact absurd opening (decomposes.literal (c :: d :: behind, directives) (by simp))

/-- Where no placeholder opens at the head of a text, what decomposes it starts with its first character. -/
theorem Decomposes.tail_of_plain {c : Char} {rest : List Char} {template : Template} (plain : ¬ Opens (c :: rest))
    (decomposes : Decomposes (c :: rest) template) :
    ∃ shorter, template = shorter.cons c ∧ Decomposes rest shorter := by
  obtain ⟨parts, tail⟩ := template
  cases parts with
  | nil =>
    have written : tail = c :: rest := decomposes.written
    subst written
    refine ⟨⟨[], rest⟩, rfl, rfl, by simp, by simp, ?_⟩
    rintro before after rfl
    exact decomposes.ending (c :: before) after rfl
  | cons part more =>
    obtain ⟨literal, directives⟩ := part
    have written := decomposes.written
    rw [text_parts] at written
    cases literal with
    | nil => exact absurd ⟨_, written.symm⟩ plain
    | cons d front =>
      obtain ⟨rfl, behind⟩ := List.cons.inj written
      refine ⟨⟨(front, directives) :: more, tail⟩, rfl, ?_, ?_, ?_, decomposes.ending⟩
      · rw [text_parts, ← behind]
        rfl
      · simpa using decomposes.closed
      · intro part member opening
        rcases List.mem_cons.mp member with rfl | later
        · exact decomposes.literal (d :: front, directives) (by simp) (hasOpening_cons.mpr (.inr opening))
        · exact decomposes.literal part (by simp [later]) opening

/-- Only what is read from a text decomposes it. -/
theorem decomposes_unique {template : Template} (decomposes : Decomposes text template) : template = parse text := by
  induction text using parse.induct generalizing template with
  | case1 =>
    obtain ⟨parts, tail⟩ := template
    have written := decomposes.written
    cases parts with
    | nil =>
      obtain rfl : tail = [] := written
      exact parse_nil.symm
    | cons part more =>
      rw [text_parts] at written
      simp at written
  | case2 rest directives after found ih =>
    obtain ⟨shape, closed⟩ := cut?_found found
    obtain ⟨parts, tail⟩ := template
    cases parts with
    | nil =>
      have written : tail = '%' :: '{' :: rest := decomposes.written
      have unclosed : '}' ∉ rest := decomposes.ending [] rest written
      rw [shape] at unclosed
      simp at unclosed
    | cons part more =>
      obtain ⟨literal, inside⟩ := part
      obtain ⟨rfl, following⟩ := decomposes.head
      have cut := cut?_inside (decomposes.closed ([], inside) (by simp)) (Template.text ⟨more, tail⟩)
      rw [← following, found] at cut
      obtain ⟨rfl, rfl⟩ := Prod.mk.inj (Option.some.inj cut)
      rw [parse_closed found, ← ih decomposes.rest]
  | case3 rest unclosed =>
    obtain ⟨parts, tail⟩ := template
    cases parts with
    | nil =>
      obtain rfl : tail = '%' :: '{' :: rest := decomposes.written
      exact (parse_open unclosed).symm
    | cons part more =>
      obtain ⟨literal, inside⟩ := part
      obtain ⟨_, rfl⟩ := decomposes.head
      simp [cut?_none_iff] at unclosed
  | case4 c rest literal ih =>
    have plain : ¬ Opens (c :: rest) := by
      rintro ⟨more, same⟩
      exact literal more (List.cons.inj same).1 (List.cons.inj same).2
    obtain ⟨shorter, rfl, decomposed⟩ := decomposes.tail_of_plain plain
    rw [parse_literal plain, ← ih decomposed]

end Unique

section Substitution

variable {tier : Int} {out : String}

/-- The texts are what the placeholders of the parts compile to, one for each and in their order. -/
abbrev Images (tier : Int) (parts : List (List Char × List Char)) (images : List String) : Prop :=
  List.Forall₂ (fun part image => (Compile.text (.ofList part.2) tier).value = .ok image) parts images

/-- The literals with a text in the place of each placeholder. -/
def woven (template : Template) (images : List String) : String :=
  .join (List.zipWith (fun part image => .ofList part.1 ++ image) template.parts images) ++ .ofList template.tail

theorem woven_cons (part : List Char × List Char) (more : List (List Char × List Char)) (tail : List Char)
    (image : String) (images : List String) :
    woven ⟨part :: more, tail⟩ (image :: images) = .ofList part.1 ++ image ++ woven ⟨more, tail⟩ images := by
  simp [woven, String.append_assoc]

theorem expandParts_value (tail : List Char) (parts : List (List Char × List Char)) :
    (expandParts tier tail parts).value = .ok out ↔
      ∃ images, Images tier parts images ∧ out = woven ⟨parts, tail⟩ images := by
  induction parts generalizing out with
  | nil => simp [expandParts, woven, eq_comm]
  | cons part more ih =>
    constructor
    · intro returned
      obtain ⟨image, text, compiled, expanded, rfl⟩ := expandParts_cons_ok returned
      obtain ⟨images, compiledAll, rfl⟩ := ih.mp expanded
      exact ⟨image :: images, .cons compiled compiledAll, (woven_cons _ _ _ _ _).symm⟩
    · rintro ⟨images, compiled, rfl⟩
      cases compiled with
      | @cons _ image _ images here later =>
        have expanded := ih.mpr ⟨images, later, rfl⟩
        simp only [expandParts, here, expanded]
        rw [woven_cons]
        rfl

theorem expandParts_records {images : List String} {parts : List (List Char × List Char)}
    (compiled : Images tier parts images) (tail : List Char) :
    (expandParts tier tail parts).records =
      parts.flatMap fun part => (Compile.text (.ofList part.2) tier).records := by
  induction compiled with
  | nil => rfl
  | cons here later ih =>
    simp only [expandParts, here, ih]
    rfl

end Substitution

/-- A text is in one way only literals with placeholders between them. Formatting it asks for the tier once, puts what
each placeholder compiles to in its place, and leaves the literals as they are. It returns where all of them compile,
and lets out their records in the same order. -/
theorem single_pass_substitution (template : String) :
    ∃ pieces, Decomposes template.toList pieces ∧ (∀ other, Decomposes template.toList other → other = pieces) ∧
      ∀ before out after, Returns (Styler.rawFormat template) before out after ↔
        ∃ tier middle images, Returns Styler.level before tier middle ∧ Images tier.level pieces.parts images ∧
          out = woven pieces images ∧
          after = emitted (pieces.parts.flatMap fun part => (Compile.text (.ofList part.2) tier.level).records) middle := by
  refine ⟨ofText template, parse_decomposes _, fun other => decomposes_unique, fun before out after => ?_⟩
  rw [rawFormat_returns]
  constructor
  · rintro ⟨tier, middle, level, expanded, rfl⟩
    obtain ⟨images, compiled, rfl⟩ := (expandParts_value _ _).mp expanded
    exact ⟨tier, middle, images, level, compiled, rfl, by rw [expand, expandParts_records compiled]⟩
  · rintro ⟨tier, middle, images, level, compiled, rfl, rfl⟩
    have expanded := (expandParts_value (ofText template).tail _).mpr ⟨images, compiled, rfl⟩
    exact ⟨tier, middle, level, expanded, by rw [expand, expandParts_records compiled]⟩

example : parse "%%\x7bx\x7d%\x7ba%\x7bb\x7d\x7d%\x7bc".toList =
    ⟨[("%".toList, "x".toList), ([], "a%\x7bb".toList)], "\x7d%\x7bc".toList⟩ := by cbv

end TermStyle.Proofs.PlaceholderSubstitution
