import TermStyle.Proofs.FlagValues
import TermStyle.Proofs.PlainHelp

/-! Where the texts of a reading come from. A text that is not part of the grammar is a word of the command line or the end
of one, as it stands behind an equals sign, and it is kept as it is. -/

namespace TermStyle.Proofs.ValueSources
open CommandLine Reading ExceptSteps WordRoles FlagValues UnescapedText PlainHelp

def Drawn (words : List String) (text : String) : Prop := ∃ word ∈ words, text.toList <:+ word.toList

/-- A plain value, or a text that was drawn from the words. -/
def Traced (words : List String) (value : Value) : Prop :=
  Unescaped value.display ∨ ∃ text, value = .text text ∧ Drawn words text

theorem Drawn.mono {words others : List String} {text : String} (drawn : Drawn words text) (within : words ⊆ others) :
    Drawn others text := by
  obtain ⟨word, member, ending⟩ := drawn
  exact ⟨word, within member, ending⟩

theorem Drawn.ending {words : List String} {text value : String} (drawn : Drawn words text)
    (ending : value.toList <:+ text.toList) : Drawn words value := by
  obtain ⟨word, member, within⟩ := drawn
  exact ⟨word, member, ending.trans within⟩

theorem Traced.mono {words others : List String} {value : Value} (traced : Traced words value) (within : words ⊆ others) :
    Traced others value := by
  rcases traced with plain | ⟨text, rfl, drawn⟩
  · exact Or.inl plain
  · exact Or.inr ⟨text, rfl, drawn.mono within⟩

theorem texts_plain (texts : List String) : Unescaped (Value.list (texts.map .text)).display := by
  have literal (texts : List String) : ∀ text ∈ Value.literals (texts.map .text), Unescaped text := by
    induction texts with
    | nil => simp [Value.literals]
    | cons text rest ih => simpa [Value.literals, Value.literal, quoted_unescaped] using ih
  have inside : Unescaped (", ".intercalate (Value.literals (texts.map .text))) := unescaped_intercalate (by decide) (literal texts)
  simp [Value.display, Value.literal, inside, show Unescaped "[" by decide, show Unescaped "]" by decide]

section Readings

variable {grammar : Grammar} {menu : Option Menu} {texts : List String} {flag : Flag}

/-- Every text of the flags and operands of a grammar is plain. -/
structure Plain (grammar : Grammar) : Prop where
  flags : ∀ flag ∈ grammar.flags, ∀ text ∈ flagTexts flag, Unescaped text
  operands : ∀ operand ∈ grammar.operands, Unescaped operand.default.display

theorem own_plain (own : ∀ text ∈ nodeTexts grammar menu, Unescaped text) : Plain grammar :=
  ⟨fun _ member => flag_own own member, fun _ member => operand_own own member _ (by simp [operandTexts])⟩

theorem kind_traced {kind : Kind} {mark text : String} {value : Value} (plain : ∀ text ∈ flagTexts flag, Unescaped text)
    (effect : flag.effect = .store kind mark) (drawn : Drawn texts text) (read : kind.read text = .ok value) :
    Traced texts value := by
  have choice {choices : List String} (same : kindTexts kind = choices) {chosen : String}
      (read : Kind.chosen choices chosen = .ok value) : Traced texts value := by
    unfold Kind.chosen at read
    split at read
    next listed =>
      cases read
      refine Or.inl (plain chosen ?_)
      simp [flagTexts, effect, effectTexts, same, List.contains_iff_mem.mp listed]
    · cases read
  cases kind with
  | text =>
    cases read
    exact Or.inr ⟨text, rfl, drawn⟩
  | word choices => exact choice rfl read
  | capitals choices => exact choice rfl read
  | number choices =>
    unfold Kind.read at read
    dsimp only at read
    split at read
    · cases read
    · split at read
      · cases read
        exact Or.inl (int_unescaped _)
      · cases read

theorem value_traced {operand : Operand} (plain : Unescaped operand.default.display) {taken : List Word}
    (drawn : ∀ word ∈ taken, Drawn texts word.text) : Traced texts (operand.value taken) := by
  have given : ∀ text ∈ (taken.map (·.text)).erase Word.separatorText, Drawn texts text := by
    intro text member
    obtain ⟨word, inside, rfl⟩ := List.mem_map.mp (List.mem_of_mem_erase member)
    exact drawn word inside
  unfold Operand.value
  dsimp only
  split
  · exact Or.inl (texts_plain _)
  · exact Or.inl plain
  next text only _ =>
    rw [only] at given
    exact Or.inr ⟨text, rfl, given text (by simp)⟩
  · exact Or.inl (texts_plain _)

theorem traced_admits (plain : Plain grammar) (menu : Option Menu) (texts : List String) :
    Admits grammar menu (Drawn texts) (fun entry => Traced texts entry.2) where
  chosen _ _ := Or.inl (show Unescaped "None" by decide)
  unsaid flag member := Or.inl (plain.flags flag member _ (by simp [flagTexts]))
  switched _ _ _ := Or.inl (show Unescaped "True" by decide)
  separated _ _ _ _ _ := Or.inl (show Unescaped "[]" by decide)
  read flag member _ _ _ _ effect drawn read := kind_traced (plain.flags flag member) effect drawn read
  unfilled operand member := Or.inl (plain.operands operand member)
  filled operand member _ drawn := value_traced (plain.operands operand member) drawn
  ending _ _ drawn ending := drawn.ending ending

theorem reading_traced (plain : Plain grammar) {result : Reading.Result} (read : Reading.ofTexts grammar menu texts = .ok result) :
    (∀ entry ∈ result.values, Traced texts entry.2) ∧ result.command ⊆ texts :=
  reading_kept (traced_admits plain menu texts) (fun text member => ⟨text, member, List.suffix_rfl⟩) read

end Readings

section Trees

mutual
/-- All that a reading of plain grammars says is plain or stands in the words. -/
theorem read_traced (tree : CommandLine.Tree) (clear : Clear tree) {texts : List String} {parsed : Parsed}
    (accepted : tree.read texts = .ok parsed) : ∀ entry ∈ parsed.values, Traced texts entry.2 := by
  match tree, clear with
  | .node grammar menu branches, .node _ own below =>
    rw [CommandLine.Tree.read] at accepted
    split at accepted
    · cases accepted
    next result read =>
      obtain ⟨values, given⟩ := reading_traced (own_plain own) read
      split at accepted
      next choice name rest named =>
        split at accepted
        · cases accepted
        · cases accepted
        next found branch =>
          cases accepted
          obtain ⟨chosen, behind⟩ := List.cons_subset.mp (named ▸ given)
          intro entry member
          rcases List.mem_append.mp member with inner | outer
          · exact (readBranch_traced branches below branch entry inner).mono behind
          · rcases List.mem_cons.mp outer with rfl | before
            · exact Or.inr ⟨name, rfl, name, chosen, List.suffix_rfl⟩
            · exact values entry before
      · cases accepted
        exact values
termination_by structural tree

theorem readBranch_traced (branches : List (String × CommandLine.Tree)) (clear : AllClear branches) {name : String}
    {texts : List String} {parsed : Parsed} (accepted : CommandLine.Tree.readBranch branches name texts = some (.ok parsed)) :
    ∀ entry ∈ parsed.values, Traced texts entry.2 := by
  match branches, clear with
  | [], _ => cases accepted
  | (branch, tree) :: branches, .cons _ own more =>
    rw [CommandLine.Tree.readBranch] at accepted
    split at accepted
    · exact read_traced tree own (Option.some.inj accepted)
    · exact readBranch_traced branches more accepted
termination_by structural branches
end

theorem parse_traced {tree : CommandLine.Tree} (clear : Clear tree) {texts : List String} {parsed : Parsed}
    (accepted : tree.parse texts = .ok parsed) (field : String) : Traced texts (parsed.get field) := by
  obtain ⟨read, _⟩ := parse_ok_iff.mp accepted
  unfold Parsed.get
  cases said : parsed.values.lookup field with
  | none => exact Or.inl (by decide)
  | some value =>
    obtain ⟨front, back, split, _⟩ := List.lookup_eq_some_iff.mp said
    exact read_traced tree clear read (field, value) (by simp [split])

end Trees

end TermStyle.Proofs.ValueSources
