import TermStyle.Proofs.CompileOutcome
import TermStyle.Proofs.SequenceText

/-! Two tiers compared. A tier only decides whether a word contributes and never what, so a higher one keeps every
sequence of a lower one in its place. The same holds of what fails. -/

namespace TermStyle.Proofs.TierGating
open Text Compile CompileOutcome

theorem minTier_bounds (spec : Attribute) : 1 ≤ spec.minTier ∧ spec.minTier ≤ 3 := by
  cases spec <;> simp [Attribute.minTier]

theorem shown_mono {low high : Int} (ordered : low ≤ high) {token : String} {sequence : Sequence}
    (contributed : shown low token = some sequence) : shown high token = some sequence := by
  obtain ⟨spec, args, known, tiered, made⟩ := shown_known contributed
  rw [shown, sequence?_tiered known (Int.le_trans tiered ordered), made]

theorem unreadable_mono {low high : Int} (ordered : low ≤ high) {token : String} (unreadable : Unreadable low token) :
    Unreadable high token := by
  obtain ⟨spec, args, known, tiered, overlong⟩ := unreadable
  exact ⟨spec, args, known, Int.le_trans tiered ordered, overlong⟩

theorem filterMap_sublist {f g : α → Option β} (keeps : ∀ item value, f item = some value → g item = some value)
    (items : List α) : (items.filterMap f).Sublist (items.filterMap g) := by
  induction items with
  | nil => exact .slnil
  | cons item items ih =>
    cases first : f item with
    | some value =>
      rw [List.filterMap_cons_some first, List.filterMap_cons_some (keeps item value first)]
      exact ih.cons_cons value
    | none =>
      rw [List.filterMap_cons_none first, List.filterMap_cons]
      cases g item with
      | none => exact ih
      | some value => exact ih.cons value

theorem shown_hidden {tier : Int} (hidden : tier ≤ 0) (token : String) : shown tier token = none := by
  cases contributed : shown tier token with
  | none => rfl
  | some sequence =>
    obtain ⟨spec, _, _, tiered, _⟩ := shown_known contributed
    have least := (minTier_bounds spec).1
    omega

theorem readable_hidden {tier : Int} (hidden : tier ≤ 0) (token : String) : ¬ Unreadable tier token := by
  rintro ⟨spec, _, _, tiered, _⟩
  have least := (minTier_bounds spec).1
  omega

theorem text_hidden {tier : Int} (hidden : tier ≤ 0) (directives : String) : (Compile.text directives tier).value = .ok "" := by
  rw [text_returns fun token _ => readable_hidden hidden token,
    List.filterMap_eq_nil_iff.mpr fun token _ => shown_hidden hidden token]
  rfl

theorem sequence?_full {tier : Int} (full : 3 ≤ tier) (token : String) : sequence? tier token = sequence? 3 token := by
  cases reading : Compile.read token with
  | known spec args =>
    have most := (minTier_bounds spec).2
    rw [sequence?_tiered reading most, sequence?_tiered reading (Int.le_trans most full)]
  | malformed => simp [sequence?, reading]
  | unknown name => simp [sequence?, reading]

theorem tokens_full {tier : Int} (full : 3 ≤ tier) (words : List String) : tokens tier words = tokens 3 words := by
  induction words with
  | nil => rfl
  | cons token words ih => simp only [tokens, sequence?_full full token, ih]

/-- Raising the tier adds sequences and takes none away, reorders none and repairs no failure. Below the first
tier there are none; from the last one on the tier makes no difference, also not to what is logged. -/
theorem raising_tier_adds (directives : String) {low high : Int} (ordered : low ≤ high) :
    (∀ less more, (Compile.text directives low).value = .ok less → (Compile.text directives high).value = .ok more →
      less = String.join (SequenceText.found less) ∧ more = String.join (SequenceText.found more) ∧
      (SequenceText.found less).Sublist (SequenceText.found more)) ∧
    (∀ error, (Compile.text directives low).value = .error error →
      ∃ later, (Compile.text directives high).value = .error later) ∧
    (low ≤ 0 → (Compile.text directives low).value = .ok "") ∧
    (3 ≤ low → Compile.text directives low = Compile.text directives high) := by
  refine ⟨?_, ?_, ?_, ?_⟩
  · intro less more fewer all
    rw [text_shown fewer, text_shown all, SequenceText.found_renderAll, SequenceText.found_renderAll]
    refine ⟨rfl, rfl, List.Sublist.map _ ?_⟩
    exact filterMap_sublist (fun token sequence => shown_mono ordered) _
  · intro error failed
    obtain ⟨⟨token, member, unreadable⟩, _⟩ := text_error failed
    exact text_fails member (unreadable_mono ordered unreadable)
  · intro hidden
    exact text_hidden hidden directives
  · intro full
    simp only [Compile.text, sequences, tokens_full full, tokens_full (Int.le_trans full ordered)]

theorem raising_tier_adds_mixed :
    (1 : Int) ≤ 3 ∧
    (Compile.text "bold rgb:1,2,3 x bg-color256:7 red" 1).value = .ok "\x1b[1m\x1b[31m" ∧
    (Compile.text "bold rgb:1,2,3 x bg-color256:7 red" 3).value = .ok "\x1b[1m\x1b[38;2;1;2;3m\x1b[48;5;7m\x1b[31m" ∧
    (SequenceText.found "\x1b[1m\x1b[31m").Sublist
      (SequenceText.found "\x1b[1m\x1b[38;2;1;2;3m\x1b[48;5;7m\x1b[31m") := by
  have fewer : (Compile.text "bold rgb:1,2,3 x bg-color256:7 red" 1).value = .ok "\x1b[1m\x1b[31m" := by rfl
  have all : (Compile.text "bold rgb:1,2,3 x bg-color256:7 red" 3).value =
      .ok "\x1b[1m\x1b[38;2;1;2;3m\x1b[48;5;7m\x1b[31m" := by rfl
  exact ⟨by decide, fewer, all, ((raising_tier_adds _ (by decide)).1 _ _ fewer all).2.2⟩

end TermStyle.Proofs.TierGating
