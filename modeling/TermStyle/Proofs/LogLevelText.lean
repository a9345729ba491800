import Mathlib.Data.Bool.AllAny
import TermStyle.Settings

/-! What passes for a log level. Only a text does: everything else a document may hold is written with a digit, a sign,
a bracket or a word of its own. -/

namespace TermStyle.Proofs.LogLevelText
open Text CaseMap

theorem upper_toList (text : String) : (upper text).toList = text.toList.flatMap capital := String.toList_ofList

/-- How the texts of values begin that are no texts, words apart. -/
def openings : List Char := "0123456789-([\x7bb".toList

def Opened (text : String) : Prop := ∃ c ∈ openings, text.toList.head? = some c

theorem opened_append {front : String} (opened : Opened front) (back : String) : Opened (front ++ back) := by
  obtain ⟨c, listed, head⟩ := opened
  obtain ⟨rest, same⟩ := List.head?_eq_some_iff.mp head
  exact ⟨c, listed, by simp [String.toList_append, same]⟩

theorem opened_unnamed {text : String} (opened : Opened text) : upper text ∉ Settings.logLevels := by
  intro named
  obtain ⟨c, listed, head⟩ := opened
  obtain ⟨rest, same⟩ := List.head?_eq_some_iff.mp head
  have other : ∀ c ∈ openings, ∀ name ∈ Settings.logLevels, (capital c).head? ≠ name.toList.head? ∧ capital c ≠ [] :=
    List.all_iff_forall_prop.mp (by decide +kernel)
  obtain ⟨unlike, filled⟩ := other c listed _ named
  obtain ⟨first, more, image⟩ := List.exists_cons_of_ne_nil filled
  apply unlike
  rw [upper_toList, same, List.flatMap_cons, image]
  rfl

theorem nat_opened (n : Nat) : Opened n.repr := by
  obtain ⟨c, rest, same⟩ := List.exists_cons_of_ne_nil (Nat.toDigits_ne_nil (n := n) (b := 10))
  have digit : c.isDigit = true := Nat.isDigit_of_mem_toDigits (n := n) (b := 10) (by decide) (by decide) (by simp [same])
  refine ⟨c, ?_, by rw [Nat.toList_repr, same]; rfl⟩
  have bounds : 48 ≤ c.toNat ∧ c.toNat ≤ 57 := by
    simpa [Char.isDigit, Char.le_def, UInt32.le_iff_toNat_le] using digit
  have places : ∀ code, code < 58 → 48 ≤ code → Char.ofNat code ∈ openings := by decide +kernel
  have listed := places c.toNat (by omega) bounds.1
  rwa [Char.ofNat_toNat] at listed

theorem dashed_opened (rest : String) : Opened ("-" ++ rest) := by
  have dash : Opened "-" := ⟨'-', by decide, by decide⟩
  exact opened_append dash rest

theorem int_opened (n : Int) : Opened (toString n) := by
  cases n with
  | ofNat n => exact nat_opened n
  | negSucc n => exact dashed_opened _

theorem padded_opened (width n : Nat) : Opened (Calendar.padded width n) := by
  unfold Calendar.padded
  dsimp only
  cases missing : width - (toString n).length with
  | zero => simpa using nat_opened n
  | succ count =>
    refine ⟨'0', by decide, ?_⟩
    simp [String.toList_append, List.replicate_succ]

theorem take_opened (n : Nat) {count : Nat} (some : 0 < count) : Opened (.ofList (n.repr.toList.take count)) := by
  obtain ⟨c, listed, head⟩ := nat_opened n
  obtain ⟨rest, same⟩ := List.head?_eq_some_iff.mp head
  obtain ⟨fewer, rfl⟩ := Nat.exists_eq_add_one_of_ne_zero (Nat.ne_of_gt some)
  exact ⟨c, listed, by simp [same]⟩

theorem write_opened (layout : Decimal.Shortest.Layout) (digits : Nat) (power : Int) : Opened (layout.write digits power) := by
  unfold Decimal.Shortest.Layout.write
  dsimp only
  split
  · exact opened_append (opened_append (opened_append (take_opened digits (by decide)) _) _) _
  · split
    · have zero : Opened "0." := ⟨'0', by decide, by decide⟩
      exact opened_append (opened_append zero _) _
    · refine opened_append (opened_append (opened_append (take_opened digits ?_) _) _) _
      omega

theorem float_unnamed (x : Float) : upper (Decimal.Shortest.text x) ∉ Settings.logLevels := by
  unfold Decimal.Shortest.text
  split
  · decide +kernel
  · dsimp only
    split
    · split
      · exact opened_unnamed (dashed_opened _)
      · decide +kernel
    · split
      · exact opened_unnamed (dashed_opened _)
      · rw [String.empty_append]
        exact opened_unnamed (write_opened _ _ _)

theorem date_opened (date : Calendar.Date) : Opened date.display := by
  have joined : date.display = Calendar.padded 4 date.year ++ ("-" ++ Calendar.padded 2 date.month ++ "-" ++ Calendar.padded 2 date.day) := by
    simp [Calendar.Date.display, String.append_assoc]
  rw [joined]
  exact opened_append (padded_opened _ _) _

theorem moment_opened (moment : Calendar.Moment) : Opened moment.display :=
  opened_append (opened_append (opened_append (opened_append (date_opened moment.date) _) _) _) _

theorem bytes_opened (bytes : List UInt8) : Opened (Value.bytesLiteral bytes) := by
  refine ⟨'b', by decide, ?_⟩
  simp [Value.bytesLiteral]

private theorem bracketed {front : String} (bracket : front = "(" ∨ front = "[" ∨ front = "\x7b") : Opened front := by
  rcases bracket with rfl | rfl | rfl <;> exact ⟨_, by decide, rfl⟩

private theorem collected {front : String} (bracket : front = "(" ∨ front = "[" ∨ front = "\x7b") (inside back : String) :
    Opened (front ++ inside ++ back) := opened_append (opened_append (bracketed bracket) inside) back

theorem tuple_opened (items : List Value) : Opened (Value.literal (.tuple items)) := by
  rcases items with _ | ⟨only, _ | ⟨second, rest⟩⟩
  · exact collected (Or.inl rfl) _ _
  · rw [Value.literal]
    exact collected (Or.inl rfl) _ _
  · rw [Value.literal]
    · exact collected (Or.inl rfl) _ _
    · nofun

theorem isLogLevel_text {value : Value} (level : Settings.isLogLevel value = true) :
    ∃ text, value = .text text ∧ upper text ∈ Settings.logLevels := by
  have named : upper value.display ∈ Settings.logLevels := List.contains_iff_mem.mp level
  have unopened : ¬ Opened value.display := fun opened => opened_unnamed opened named
  cases value with
  | text text => exact ⟨text, rfl, named⟩
  | null => exact absurd named (by decide +kernel)
  | bool value => cases value <;> exact absurd named (by decide +kernel)
  | int number => exact absurd (int_opened number) unopened
  | float x => exact absurd named (float_unnamed x)
  | date date => exact absurd (date_opened date) unopened
  | moment moment => exact absurd (moment_opened moment) unopened
  | bytes bytes => exact absurd (bytes_opened bytes) unopened
  | tuple items => exact absurd (tuple_opened items) unopened
  | list items =>
    rw [Value.display, Value.literal] at unopened
    · exact absurd (collected (Or.inr (Or.inl rfl)) _ _) unopened
    all_goals nofun
  | set items =>
    cases items with
    | nil => exact absurd named (by decide +kernel)
    | cons item rest =>
      rw [Value.display, Value.literal] at unopened
      · exact absurd (collected (Or.inr (Or.inr rfl)) _ _) unopened
      all_goals nofun
  | dict entries =>
    rw [Value.display, Value.literal] at unopened
    · exact absurd (collected (Or.inr (Or.inr rfl)) _ _) unopened
    all_goals nofun
  | cycle dictionary =>
    cases dictionary with
    | false => exact absurd ⟨'[', by decide, by decide⟩ unopened
    | true => exact absurd ⟨'\x7b', by decide, by decide⟩ unopened

end TermStyle.Proofs.LogLevelText
