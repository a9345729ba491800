import Mathlib.Data.List.TakeDrop
import TermStyle.CommandLine.Program
import TermStyle.Proofs.ExceptSteps

/-! What a word of a command line is read as. A word that counts as a flag is called by a name of that flag. Where there is
one flag more, the word is what it was, or it names the flag that was added. -/

namespace TermStyle.Proofs.WordRoles
open CommandLine ExceptSteps

theorem find?_mem {flags : List Flag} {name : String} {flag : Flag} (found : Grammar.find? flags name = some flag) :
    flag ∈ flags := List.mem_of_find?_eq_some found

theorem mem_named {flags : List Flag} {flag : Flag} {name : String} :
    (flag, name) ∈ Word.named flags ↔ flag ∈ flags ∧ name ∈ flag.names := by
  simp [Word.named]

theorem find?_named {flags : List Flag} {name : String} {flag : Flag} (found : Grammar.find? flags name = some flag) :
    (flag, name) ∈ Word.named flags := by
  have listed := List.find?_some (p := fun flag : Flag => flag.names.contains name) found
  exact mem_named.mpr ⟨find?_mem found, by simpa using listed⟩

theorem candidates_named {flags : List Flag} {text : String} {candidate : Word.Candidate}
    (member : candidate ∈ Word.candidates flags text) : (candidate.flag, candidate.name) ∈ Word.named flags := by
  unfold Word.candidates at member
  split at member
  · obtain ⟨⟨flag, name⟩, listed, made⟩ := List.mem_filterMap.mp member
    dsimp only at made
    split at made
    · cases made
      exact listed
    · cases made
  · obtain ⟨⟨flag, name⟩, listed, made⟩ := List.mem_filterMap.mp member
    dsimp only at made
    split at made
    · cases made
      exact listed
    · split at made
      · cases made
        exact listed
      · cases made

theorem guessed_named {flags : List Flag} {text name : String} {flag : Flag} {attached : Option String}
    (guessed : Word.guessed flags text = .ok (.flag flag name attached)) : (flag, name) ∈ Word.named flags := by
  unfold Word.guessed at guessed
  split at guessed
  next one only =>
    cases guessed
    exact candidates_named (only ▸ List.mem_singleton_self one)
  · split at guessed
    · cases guessed
    · cases guessed
  · cases guessed

variable {extra : Flag} {flags : List Flag} {text : String} {role other : Role}

/-- How a word comes to its role. -/
inductive Earns (flags : List Flag) (text : String) : Role → Prop
  | bare (undashed : text.startsWith "-" = false) : Earns flags text .argument
  | named {flag} (dashed : text.startsWith "-" = true) (found : Grammar.find? flags text = some flag) :
      Earns flags text (.flag flag text none)
  | lone (dashed : text.startsWith "-" = true) (unnamed : Grammar.find? flags text = none) (single : text.length = 1) :
      Earns flags text .argument
  | divided {flag value} (dashed : text.startsWith "-" = true) (unnamed : Grammar.find? flags text = none)
      (longer : text.length ≠ 1) (behind : (Word.atEquals text).2 = some value)
      (found : Grammar.find? flags (Word.atEquals text).1 = some flag) :
      Earns flags text (.flag flag (Word.atEquals text).1 (some value))
  | guessed {role : Role} (dashed : text.startsWith "-" = true) (unnamed : Grammar.find? flags text = none)
      (longer : text.length ≠ 1)
      (undivided : (Word.atEquals text).2 = none ∨ Grammar.find? flags (Word.atEquals text).1 = none)
      (guess : Word.guessed flags text = .ok role) : Earns flags text role

theorem roleOf_earns (read : Word.roleOf flags text = .ok role) : Earns flags text role := by
  unfold Word.roleOf at read
  split at read
  next bare =>
    cases read
    exact .bare (by simpa using bare)
  next dashed =>
    have dashed : text.startsWith "-" = true := by simpa using dashed
    split at read
    next flag found =>
      cases read
      exact .named dashed found
    next unnamed =>
      split at read
      next single =>
        cases read
        exact .lone dashed unnamed (beq_iff_eq.mp single)
      next longer =>
        have longer : text.length ≠ 1 := by simpa using longer
        dsimp only at read
        split at read
        next value flag behind found =>
          cases read
          exact .divided dashed unnamed longer behind found
        next undivided =>
          refine .guessed dashed unnamed longer ?_ read
          cases behind : (Word.atEquals text).2 with
          | none => exact Or.inl rfl
          | some value => exact Or.inr (Option.eq_none_iff_forall_ne_some.mpr fun flag found => undivided value flag behind found)

theorem roleOf_named {name : String} {flag : Flag} {attached : Option String}
    (read : Word.roleOf flags text = .ok (.flag flag name attached)) : (flag, name) ∈ Word.named flags := by
  cases roleOf_earns read with
  | named _ found => exact find?_named found
  | divided _ _ _ _ found => exact find?_named found
  | guessed _ _ _ _ guess => exact guessed_named guess

section Endings

variable {flags : List Flag} {text value name : String} {flag : Flag}

theorem atEquals_ending (behind : (Word.atEquals text).2 = some value) : value.toList <:+ text.toList := by
  unfold Word.atEquals at behind
  dsimp only at behind
  split at behind
  · cases behind
  · cases behind
    rw [String.toList_ofList, List.span_eq_takeWhile_dropWhile]
    exact (List.tail_suffix _).trans (List.dropWhile_suffix _)

theorem candidates_ending {candidate : Word.Candidate} (member : candidate ∈ Word.candidates flags text)
    (attached : candidate.attached = some value) : value.toList <:+ text.toList := by
  unfold Word.candidates at member
  split at member
  · obtain ⟨⟨flag, name⟩, _, made⟩ := List.mem_filterMap.mp member
    dsimp only at made
    split at made
    · obtain rfl := Option.some.inj made
      exact atEquals_ending attached
    · cases made
  · obtain ⟨_, _, made⟩ := List.mem_filterMap.mp member
    dsimp only at made
    split at made
    · cases made
      cases attached
      rw [String.toList_ofList]
      exact List.drop_suffix 2 _
    · split at made
      · cases made
        cases attached
      · cases made

theorem guessed_ending (guessed : Word.guessed flags text = .ok (.flag flag name (some value))) :
    value.toList <:+ text.toList := by
  unfold Word.guessed at guessed
  split at guessed
  next one only =>
    injection guessed with role
    injection role with _ _ attached
    exact candidates_ending (only ▸ List.mem_singleton_self one) attached
  · split at guessed <;> cases guessed
  · cases guessed

theorem roleOf_ending (read : Word.roleOf flags text = .ok (.flag flag name (some value))) :
    value.toList <:+ text.toList := by
  cases roleOf_earns read with
  | divided _ _ _ behind _ => exact atEquals_ending behind
  | guessed _ _ _ _ guess => exact guessed_ending guess

end Endings

section Words

theorem ofTexts_cons {texts : List String} {words : List Word}
    (worded : Word.ofTexts flags (text :: texts) = .ok words) (bare : text ≠ Word.separatorText) :
    ∃ role later, Word.roleOf flags text = .ok role ∧ Word.ofTexts flags texts = .ok later ∧ words = ⟨text, role⟩ :: later := by
  rw [Word.ofTexts, if_neg bare] at worded
  obtain ⟨role, read, remaining⟩ := bind_ok_iff.mp worded
  obtain ⟨later, others, made⟩ := bind_ok_iff.mp remaining
  cases made
  exact ⟨role, later, read, others, rfl⟩

/-- If the word is a flag, it is one of these. -/
def Known (flags : List Flag) (word : Word) : Prop :=
  ∀ flag name attached, word.role = .flag flag name attached → flag ∈ flags

theorem ofTexts_known {texts : List String} {words : List Word} (worded : Word.ofTexts flags texts = .ok words) :
    ∀ word ∈ words, Known flags word := by
  induction texts generalizing words with
  | nil =>
    cases worded
    simp
  | cons text rest ih =>
    intro word member
    by_cases separator : text = Word.separatorText
    · rw [Word.ofTexts, if_pos separator] at worded
      cases worded
      rcases List.mem_cons.mp member with rfl | argument
      · nofun
      · obtain ⟨_, _, rfl⟩ := List.mem_map.mp argument
        nofun
    · obtain ⟨role, later, read, others, rfl⟩ := ofTexts_cons worded separator
      rcases List.mem_cons.mp member with rfl | laterMember
      · rintro flag name attached rfl
        exact (mem_named.mp (roleOf_named read)).1
      · exact ih others word laterMember

/-- A word that stands among the given ones, whose flag belongs to the grammar and takes its value from the word. -/
structure Stands (flags : List Flag) (texts : List String) (word : Word) : Prop where
  listed : word.text ∈ texts
  known : Known flags word
  attached : ∀ flag name value, word.role = .flag flag name (some value) → value.toList <:+ word.text.toList

theorem ofTexts_stands {texts : List String} {words : List Word} (worded : Word.ofTexts flags texts = .ok words) :
    ∀ word ∈ words, Stands flags texts word := by
  suffices each : ∀ word ∈ words, word.text ∈ texts ∧
      ∀ flag name value, word.role = .flag flag name (some value) → value.toList <:+ word.text.toList from
    fun word member => ⟨(each word member).1, ofTexts_known worded word member, (each word member).2⟩
  induction texts generalizing words with
  | nil =>
    cases worded
    simp
  | cons text rest ih =>
    intro word member
    by_cases separator : text = Word.separatorText
    · rw [Word.ofTexts, if_pos separator] at worded
      cases worded
      rcases List.mem_cons.mp member with rfl | argument
      · exact ⟨by simp, nofun⟩
      · obtain ⟨other, listed, rfl⟩ := List.mem_map.mp argument
        exact ⟨by simp [listed], nofun⟩
    · obtain ⟨role, later, read, others, rfl⟩ := ofTexts_cons worded separator
      rcases List.mem_cons.mp member with rfl | laterMember
      · refine ⟨by simp, ?_⟩
        rintro flag name value rfl
        exact roleOf_ending read
      · obtain ⟨listed, attached⟩ := ih others word laterMember
        exact ⟨List.mem_cons_of_mem _ listed, attached⟩

end Words

section Growth

theorem candidates_grown (extra : Flag) (flags : List Flag) (text : String) :
    Word.candidates (extra :: flags) text = Word.candidates [extra] text ++ Word.candidates flags text := by
  unfold Word.candidates
  split <;> simp [Word.named, List.filterMap_append]

theorem guessed_grown (guessed : Word.guessed flags text = .ok role) (grown : Word.guessed (extra :: flags) text = .ok other) :
    other = role ∨ ∃ name attached, other = .flag extra name attached := by
  unfold Word.guessed at guessed grown
  rw [candidates_grown] at grown
  cases added : Word.candidates [extra] text with
  | nil =>
    rw [added, List.nil_append, guessed] at grown
    cases grown
    exact Or.inl rfl
  | cons candidate more =>
    rw [added] at grown
    split at grown
    next one only =>
      obtain ⟨rfl, _⟩ := List.cons.inj only
      cases grown
      have named := (mem_named.mp (candidates_named (added ▸ List.mem_cons_self))).1
      rw [List.mem_singleton.mp named]
      exact Or.inr ⟨_, _, rfl⟩
    next none => cases none
    · cases grown

theorem find?_grown (extra : Flag) (flags : List Flag) (name : String) :
    Grammar.find? (extra :: flags) name = some extra ∨ Grammar.find? (extra :: flags) name = Grammar.find? flags name := by
  unfold Grammar.find?
  rw [List.find?_cons]
  cases extra.names.contains name with
  | true => exact Or.inl rfl
  | false => exact Or.inr rfl

theorem find?_grown_none {name : String} (missing : Grammar.find? (extra :: flags) name = none) :
    Grammar.find? flags name = none := by
  rcases find?_grown extra flags name with own | same
  · rw [own] at missing
    cases missing
  · rw [← same, missing]

/-- One flag more changes the role of a word only if the word becomes that flag. -/
theorem roleOf_grown (read : Word.roleOf flags text = .ok role) (grown : Word.roleOf (extra :: flags) text = .ok other) :
    other = role ∨ ∃ name attached, other = .flag extra name attached := by
  unfold Word.roleOf at read
  cases roleOf_earns grown with
  | bare undashed =>
    rw [undashed] at read
    cases read
    exact Or.inl rfl
  | named dashed found =>
    rcases find?_grown extra flags text with own | same
    · rw [own] at found
      cases found
      exact Or.inr ⟨_, _, rfl⟩
    · rw [dashed, ← same, found] at read
      cases read
      exact Or.inl rfl
  | lone dashed unnamed single =>
    rw [dashed, find?_grown_none unnamed, single] at read
    cases read
    exact Or.inl rfl
  | divided dashed unnamed longer behind found =>
    rcases find?_grown extra flags (Word.atEquals text).1 with own | same
    · rw [own] at found
      cases found
      exact Or.inr ⟨_, _, rfl⟩
    · left
      simpa [dashed, find?_grown_none unnamed, longer, behind, ← same, found] using read
  | guessed dashed unnamed longer undivided guess =>
    have guessed : Word.guessed flags text = .ok role := by
      rcases undivided with none | missing
      · simpa [dashed, find?_grown_none unnamed, longer, none] using read
      · simpa [dashed, find?_grown_none unnamed, longer, find?_grown_none missing] using read
    exact guessed_grown guessed guess

theorem guessed_shrunk (grown : Word.guessed (extra :: flags) text = .ok role)
    (other : ∀ name attached, role ≠ .flag extra name attached) : Word.guessed flags text = .ok role := by
  unfold Word.guessed at grown ⊢
  rw [candidates_grown] at grown
  cases added : Word.candidates [extra] text with
  | nil =>
    rw [added, List.nil_append] at grown
    exact grown
  | cons candidate more =>
    rw [added] at grown
    split at grown
    next one only =>
      obtain ⟨rfl, _⟩ := List.cons.inj only
      cases grown
      have named := (mem_named.mp (candidates_named (added ▸ List.mem_cons_self))).1
      exact absurd (by rw [List.mem_singleton.mp named]) (other _ _)
    next none => cases none
    · cases grown

theorem roleOf_shrunk (grown : Word.roleOf (extra :: flags) text = .ok role)
    (other : ∀ name attached, role ≠ .flag extra name attached) : Word.roleOf flags text = .ok role := by
  unfold Word.roleOf
  cases roleOf_earns grown with
  | bare undashed => simp [undashed]
  | @named flag dashed found =>
    rcases find?_grown extra flags text with own | same
    · rw [own] at found
      cases found
      exact absurd rfl (other _ _)
    · simp [dashed, ← same, found]
  | lone dashed unnamed single => simp [dashed, find?_grown_none unnamed, single]
  | divided dashed unnamed longer behind found =>
    rcases find?_grown extra flags (Word.atEquals text).1 with own | same
    · rw [own] at found
      cases found
      exact absurd rfl (other _ _)
    · simp [dashed, find?_grown_none unnamed, longer, behind, ← same, found]
  | guessed dashed unnamed longer undivided guess =>
    have guessed := guessed_shrunk guess other
    rcases undivided with none | missing
    · simp [dashed, find?_grown_none unnamed, longer, none, guessed]
    · simp [dashed, find?_grown_none unnamed, longer, find?_grown_none missing, guessed]

theorem helpWord_role {name : String} (listed : name ∈ Program.helpFlag.names) (flags : List Flag) :
    Word.roleOf (Program.helpFlag :: flags) name = .ok (.flag Program.helpFlag name none) := by
  have dashed : name.startsWith "-" = true := by
    simp only [Program.helpFlag, List.mem_cons, List.not_mem_nil, or_false] at listed
    rcases listed with rfl | rfl
    · decide +kernel
    · decide +kernel
  have found : Grammar.find? (Program.helpFlag :: flags) name = some Program.helpFlag := by
    unfold Grammar.find?
    rw [List.find?_cons, List.contains_iff_mem.mpr listed]
  unfold Word.roleOf
  rw [dashed, found]
  rfl

end Growth

end TermStyle.Proofs.WordRoles
