import TermStyle.Proofs.SequenceText
import TermStyle.Proofs.StylerRun
import TermStyle.Proofs.TemplateText
import TermStyle.Proofs.TierGating

/-! What is left to see when the sequences of an output are taken out. It is the text alone, or the template without
its placeholders, and so the same at every tier. -/

namespace TermStyle.Proofs.VisibleText
open Log ActionRun Logging StylerRun SequenceText TemplateText

def escape : Char := '\x1b'

def plain? : Piece → Option Char
  | .plain c => some c
  | .control _ => none

def remaining (text : List Char) : List Char := (pieces text).filterMap plain?

/-- The text without the sequences in it. -/
def visible (text : String) : String := .ofList (remaining text.toList)

theorem remaining_sequence (sequence : Sequence) (behind : List Char) :
    remaining (sequence.render.toList ++ behind) = remaining behind := by
  rw [remaining, pieces_render]
  rfl

theorem remaining_row (sequences : List Sequence) (behind : List Char) :
    remaining ((Sequence.renderAll sequences).toList ++ behind) = remaining behind := by
  induction sequences with
  | nil => rfl
  | cons sequence rest ih => rw [renderAll_cons, List.append_assoc, remaining_sequence, ih]

theorem remaining_literal {text : List Char} (unescaped : escape ∉ text) (behind : List Char) :
    remaining (text ++ behind) = text ++ remaining behind := by
  induction text with
  | nil => rfl
  | cons c rest ih =>
    have other : c ≠ escape := by
      rintro rfl
      simp at unescaped
    have none : leading? (c :: (rest ++ behind)) = none := by
      unfold leading?
      split
      next same => exact absurd (List.cons.inj same).1 other
      next => rfl
    have deeper := ih fun member => unescaped (by simp [member])
    have head : pieces (c :: (rest ++ behind)) = .plain c :: pieces (rest ++ behind) := by
      rw [pieces]
      split
      next found =>
        rw [none] at found
        cases found
      next => rfl
    rw [List.cons_append, remaining, head]
    simp only [List.filterMap_cons, plain?]
    rw [List.cons_append, ← deeper, remaining]

theorem remaining_nil : remaining [] = [] := by simp [remaining, pieces]

def literals (template : Template) : List Char := template.parts.flatMap Prod.fst ++ template.tail

theorem literals_unescaped {template : Template} (unescaped : escape ∉ template.text) :
    escape ∉ template.tail ∧ ∀ part ∈ template.parts, escape ∉ part.1 := by
  refine ⟨fun inside => unescaped (by simp [Template.text, inside]), ?_⟩
  intro part member inside
  apply unescaped
  rw [Template.text, List.mem_append, List.mem_flatMap]
  exact Or.inl ⟨part, member, by simp [inside]⟩

/-- The images between the literals vanish, and what stands behind them never becomes part of one. -/
theorem expandParts_remaining {tier : Int} {tail : List Char} {parts : List (List Char × List Char)} {out : String}
    (returned : (Template.expandParts tier tail parts).value = .ok out)
    (last : escape ∉ tail) (between : ∀ part ∈ parts, escape ∉ part.1) (behind : List Char) :
    remaining (out.toList ++ behind) = parts.flatMap Prod.fst ++ tail ++ remaining behind := by
  induction parts generalizing out with
  | nil =>
    cases returned
    rw [String.toList_ofList, remaining_literal last]
    rfl
  | cons part rest ih =>
    obtain ⟨literal, directives⟩ := part
    obtain ⟨image, text, compiled, expanded, rfl⟩ := expandParts_cons_ok returned
    have later := ih expanded fun part member => between part (by simp [member])
    have first := between (literal, directives) (by simp)
    simp only [String.toList_append, String.toList_ofList, List.append_assoc, List.flatMap_cons]
    rw [remaining_literal first, CompileOutcome.text_shown compiled, remaining_row, later]
    simp only [List.append_assoc]

theorem expandParts_hidden (tail : List Char) (parts : List (List Char × List Char)) :
    (Template.expandParts 0 tail parts).value = .ok (.ofList (parts.flatMap Prod.fst ++ tail)) := by
  induction parts with
  | nil => rfl
  | cons part rest ih =>
    obtain ⟨literal, directives⟩ := part
    simp only [Template.expandParts, TierGating.text_hidden (Int.le_refl 0), ih]
    simp [Except.map]

def Unseen (ending : String) : Prop := remaining ending.toList = []

theorem unseen_empty : Unseen "" := remaining_nil

theorem unseen_reset : Unseen Sequence.reset.render := by
  have taken := remaining_sequence .reset []
  rw [List.append_nil] at taken
  exact taken.trans remaining_nil

theorem visible_row {tier : Int} {directives front text ending : String} (unescaped : escape ∉ text.toList)
    (compiled : (Compile.text directives tier).value = .ok front) (unseen : Unseen ending) :
    visible (front ++ text ++ ending) = text := by
  rw [visible, String.toList_append, String.toList_append, List.append_assoc, CompileOutcome.text_shown compiled,
    remaining_row, remaining_literal unescaped, unseen, List.append_nil, String.ofList_toList]

theorem visible_expanded {tier : Int} {template out ending : String} (unescaped : escape ∉ template.toList)
    (expanded : ((Template.ofText template).expand tier).value = .ok out) (unseen : Unseen ending) :
    visible (out ++ ending) = .ofList (literals (Template.ofText template)) := by
  have whole : escape ∉ (Template.ofText template).text := by
    rw [Template.ofText, text_parse]
    exact unescaped
  obtain ⟨last, between⟩ := literals_unescaped whole
  rw [visible, String.toList_append, expandParts_remaining expanded last between, unseen, List.append_nil]
  rfl

/-- What is seen of an output depends on the template or the text alone, whatever tier is in force or found. For a
template it is the output of the lowest tier, at which expanding always returns. -/
theorem visible_text_untiered {template text : String} (groups : List String)
    (plainTemplate : escape ∉ template.toList) (plainText : escape ∉ text.toList) :
    ∃ bare,
      (∀ session, session.styler.tier = some .none → (outcome (Styler.rawFormat template) session).1 = .ok bare) ∧
      ∀ before out after,
        (Returns (Styler.rawFormat template) before out after → visible out = bare) ∧
        (Returns (Styler.format template) before out after → visible out = bare) ∧
        (Returns (Styler.rawApply text groups) before out after → visible out = text) ∧
        (Returns (Styler.apply text groups) before out after → visible out = text) := by
  refine ⟨.ofList (literals (Template.ofText template)), ?_, ?_⟩
  · intro session lowest
    have expanded := expandParts_hidden (Template.ofText template).tail (Template.ofText template).parts
    rw [rawFormat_run, level_kept lowest, andThen_ok, shown]
    change Except.mapError _ (Template.expandParts 0 _ _).value = _
    rw [expanded]
    rfl
  · intro before out after
    refine ⟨?_, ?_, ?_, ?_⟩
    · intro returned
      obtain ⟨_, _, _, expanded, _⟩ := rawFormat_returns.mp returned
      have seen := visible_expanded plainTemplate expanded unseen_empty
      rwa [String.append_empty] at seen
    · intro returned
      obtain ⟨_, body, formatted, rfl⟩ := format_returns.mp returned
      obtain ⟨_, _, _, expanded, _⟩ := rawFormat_returns.mp formatted
      exact visible_expanded plainTemplate expanded unseen_reset
    · intro returned
      obtain ⟨front, compiled, rfl⟩ := rawApply_returns.mp returned
      obtain ⟨_, _, _, made, _⟩ := compile_returns.mp compiled
      have seen := visible_row plainText made unseen_empty
      rwa [String.append_empty] at seen
    · intro returned
      obtain ⟨front, compiled, rfl⟩ := apply_returns.mp returned
      obtain ⟨_, _, _, made, _⟩ := compile_returns.mp compiled
      exact visible_row plainText made unseen_reset

/-- Two placeholders, of which only one shows at the second tier, and one that is left open. -/
def mixed : String := "[1m%\x7bbold x\x7da%\x7brgb:1,2,3\x7d%\x7b"

private theorem mixed_parts :
    Template.ofText mixed =
      ⟨[("[1m".toList, "bold x".toList), ("a".toList, "rgb:1,2,3".toList)], "%\x7b".toList⟩ := by
  simp [Template.ofText, mixed, Template.parse, Template.cut?, Template.cons]

private theorem mixed_run (tier : Tier) :
    outcome (Styler.rawFormat mixed) (plainSession tier) =
      shown ((Template.mk [("[1m".toList, "bold x".toList), ("a".toList, "rgb:1,2,3".toList)] "%\x7b".toList).expand
        tier.level) (plainSession tier) := by
  rw [rawFormat_run, level_kept rfl, andThen_ok, mixed_parts]

theorem visible_text_untiered_mixed :
    escape ∉ mixed.toList ∧ escape ∉ "100%".toList ∧
    (outcome (Styler.rawFormat mixed) (plainSession .none)).1 = .ok "[1ma%\x7b" ∧
    (∃ after, Returns (Styler.rawFormat mixed) (plainSession .truecolor) "[1m\x1b[1ma\x1b[38;2;1;2;3m%\x7b" after) ∧
    visible "[1m\x1b[1ma\x1b[38;2;1;2;3m%\x7b" = "[1ma%\x7b" := by
  have plainTemplate : escape ∉ mixed.toList := by decide
  have plainText : escape ∉ "100%".toList := by decide
  have lowest : (outcome (Styler.rawFormat mixed) (plainSession .none)).1 = .ok "[1ma%\x7b" := by
    rw [mixed_run]
    rfl
  have highest : Returns (Styler.rawFormat mixed) (plainSession .truecolor) "[1m\x1b[1ma\x1b[38;2;1;2;3m%\x7b"
      (emitted [.debug Compile.logger "Ignoring unknown attribute 'x'"] (plainSession .truecolor)) := by
    rw [Returns, mixed_run]
    rfl
  obtain ⟨bare, always, same⟩ := visible_text_untiered ["bold"] plainTemplate plainText
  have found := always (plainSession .none) rfl
  rw [lowest] at found
  exact ⟨plainTemplate, plainText, lowest, ⟨_, highest⟩, ((same _ _ _).1 highest).trans (Except.ok.inj found).symm⟩

end TermStyle.Proofs.VisibleText
