import Mathlib.Logic.Relation
import TermStyle.Proofs.NamedCommand

/-! Where the default command is put. The place is found by going from word to word, past every flag and past the value of
a flag that takes one, without a look at whether there is a value, so the way may lead out of the line. Naming the command
changes nothing of what was passed on the way. A second search takes the same way, ends at the same place, and finds a
command there. -/

namespace TermStyle.Proofs.CommandPlace
open CommandLine LeadingFlags NamedCommand TwoReadings
open DefaultCommand (index insert isFlag valued)

variable {words back : List String} {word : String} {place next last : Nat}

section Splitting

theorem split_dangling (flag : isFlag word = true) (listed : word ∈ valued) : DefaultCommand.split [word] = ([word], []) := by
  rw [DefaultCommand.split.eq_def]
  simp [flag, listed]

theorem index_le (words : List String) : index words ≤ words.length := by
  have whole := congrArg List.length (split_append words)
  rw [List.length_append] at whole
  unfold index
  omega

theorem split_eq (words : List String) :
    DefaultCommand.split words = (words.take (index words), words.drop (index words)) := by
  have whole := split_append words
  have front : (DefaultCommand.split words).1 = words.take (index words) := List.prefix_iff_eq_take.mp ⟨_, whole⟩
  have rest : (DefaultCommand.split words).2 = words.drop (index words) := by
    rw [front] at whole
    exact List.append_cancel_left (whole.trans (List.take_append_drop (index words) words).symm)
  exact Prod.ext front rest

/-- What stands behind the flags does not matter to the scan as long as it begins with no flag. Only where the words end
with the flags there must be nothing, since the last flag may lack its value. -/
theorem split_replaced (stops : ∀ word ∈ back.head?, isFlag word = false)
    (ended : (DefaultCommand.split words).2 = [] → back = []) :
    DefaultCommand.split ((DefaultCommand.split words).1 ++ back) = ((DefaultCommand.split words).1, back) := by
  have stopped : DefaultCommand.split back = ([], back) := by
    cases back with
    | nil => rfl
    | cons word rest => exact split_unflagged (stops word rfl) rest
  fun_induction DefaultCommand.split words with
  | case1 => exact stopped
  | case2 => exact stopped
  | case3 word rest flag plain front behind same ih =>
    rw [same] at ih
    have inner := ih ended
    rw [List.cons_append, split_step (by simpa using flag) (by simpa using plain), inner]
  | case4 word flag listed =>
    obtain rfl := ended rfl
    exact split_dangling (by simpa using flag) (by simpa using listed)
  | case5 word flag listed value rest front behind same ih =>
    rw [same] at ih
    have inner := ih ended
    rw [List.cons_append, List.cons_append, split_valued (by simpa using listed), inner]

end Splitting

section Scan

/-- How many words a flag takes up. -/
def width (word : String) : Nat := if word ∈ valued then 2 else 1

/-- One move of the scan, from a flag to behind what it takes up. -/
inductive Moves (words : List String) (place : Nat) : Nat → Prop
  | on {word : String} (stands : words[place]? = some word) (flag : isFlag word = true) : Moves words place (place + width word)

/-- The scan goes from the first word to this place, and no further. -/
structure Ends (words : List String) (place : Nat) : Prop where
  moves : Relation.ReflTransGen (Moves words) 0 place
  stops : ∀ next, ¬ Moves words place next

theorem width_pos (word : String) : 0 < width word := by
  unfold width
  split <;> omega

theorem width_le (word : String) : width word ≤ 2 := by
  unfold width
  split <;> omega

theorem inside_of_stands (stands : words[place]? = some word) : place < words.length :=
  (List.getElem?_eq_some_iff.mp stands).1

theorem drop_stands (stands : words[place]? = some word) : words.drop place = word :: words.drop (place + 1) := by
  rw [List.drop_eq_getElem?_toList_append, stands]
  rfl

theorem index_flag (flag : isFlag word = true) (rest : List String) :
    index (word :: rest) = min (width word + index (rest.drop (width word - 1))) (rest.length + 1) := by
  by_cases listed : word ∈ valued
  · rw [width, if_pos listed]
    cases rest with
    | nil =>
      have alone : index [word] = 1 := by
        rw [index, split_dangling flag listed]
        rfl
      rw [alone]
      exact (Nat.min_eq_right (Nat.le_add_left 1 _)).symm
    | cons value rest =>
      have bound := index_le rest
      have step : index (word :: value :: rest) = index rest + 2 := by
        rw [index, split_valued listed]
        rfl
      rw [step, List.length_cons]
      change _ = min (2 + index rest) _
      omega
  · have bound := index_le rest
    have step : index (word :: rest) = index rest + 1 := by
      rw [index, split_step flag listed]
      rfl
    rw [width, if_neg listed, step]
    change _ = min (1 + index rest) _
    omega

/-- Where the scan will have got to in the end, seen from a place on its way. -/
def ahead (words : List String) (place : Nat) : Nat := min (place + index (words.drop place)) words.length

theorem moves_ahead (move : Moves words place next) : ahead words next = ahead words place := by
  cases move with
  | @on word stands flag =>
    have inside := inside_of_stands stands
    have positive := width_pos word
    have behind : (words.drop (place + 1)).drop (width word - 1) = words.drop (place + width word) := by
      rw [List.drop_drop]
      congr 1
      omega
    have step := index_flag flag (words.drop (place + 1))
    rw [← drop_stands stands, behind, List.length_drop] at step
    rw [ahead, ahead, step]
    omega

/-- Whatever was passed, the end of the way is the same. -/
theorem run_ahead (moves : Relation.ReflTransGen (Moves words) place last) : ahead words last = ahead words place := by
  induction moves with
  | refl => rfl
  | tail _ move ih => exact (moves_ahead move).trans ih

theorem stopped_index (stops : ∀ next, ¬ Moves words place next) : index (words.drop place) = 0 := by
  cases stands : words[place]? with
  | none =>
    rw [List.drop_eq_nil_iff.mpr (List.getElem?_eq_none_iff.mp stands)]
    rfl
  | some word =>
    have unflagged : isFlag word = false := by
      apply Bool.eq_false_iff.mpr
      intro flag
      exact stops _ (.on stands flag)
    rw [drop_stands stands, index, split_unflagged unflagged]
    rfl

/-- The place of the command is where the scan ends, or the end of the line if the scan has left it. -/
theorem Ends.index (ends : Ends words place) : index words = min place words.length := by
  have same := run_ahead ends.moves
  have bound := index_le words
  simp only [ahead, stopped_index ends.stops, List.drop_zero] at same
  omega

theorem exists_last (words : List String) (place : Nat) :
    ∃ last, Relation.ReflTransGen (Moves words) place last ∧ ∀ next, ¬ Moves words last next := by
  by_cases stuck : ∀ next, ¬ Moves words place next
  · exact ⟨place, .refl, stuck⟩
  · obtain ⟨next, move⟩ := not_forall_not.mp stuck
    have further : place < words.length ∧ place < next := by
      obtain ⟨stands, _⟩ := move
      exact ⟨inside_of_stands stands, Nat.lt_add_of_pos_right (width_pos _)⟩
    obtain ⟨last, moves, stops⟩ := exists_last words next
    exact ⟨last, .head move moves, stops⟩
termination_by words.length - place

theorem exists_ends (words : List String) : ∃ place, Ends words place := by
  obtain ⟨last, moves, stops⟩ := exists_last words 0
  exact ⟨last, moves, stops⟩

/-- The scan leaves the line only past the last word, and by one place, when that is a flag without its value. -/
theorem Ends.within (ends : Ends words place) :
    place ≤ words.length ∨ place = words.length + 1 ∧ ∃ word ∈ valued, words.getLast? = some word := by
  rcases Relation.ReflTransGen.cases_tail ends.moves with rfl | ⟨before, _, move⟩
  · exact Or.inl (Nat.zero_le _)
  · cases move with
    | @on word stands flag =>
      have inside := inside_of_stands stands
      have most := width_le word
      by_cases further : before + width word ≤ words.length
      · exact Or.inl further
      · have final : before = words.length - 1 := by omega
        have listed : word ∈ valued := by
          by_contra plain
          rw [width, if_neg plain] at further
          omega
        refine Or.inr ⟨by omega, word, listed, ?_⟩
        rw [List.getLast?_eq_getElem?, ← final, stands]

theorem ends_inside (inside : index words < words.length) : Ends words place ↔ place = index words := by
  have same {place : Nat} (ends : Ends words place) : place = index words := by
    have found := ends.index
    omega
  constructor
  · exact same
  · intro here
    obtain ⟨other, ends⟩ := exists_ends words
    rw [here, ← same ends]
    exact ends

end Scan

section Naming

variable {rest completed : List String}

/-- What may become of the words behind the flags, by the first of them. -/
inductive Completes (word : String) (rest : List String) : List String → Prop
  | separated (same : word = Word.separatorText) : Completes word rest (DefaultCommand.name :: rest)
  | named (listed : word ∈ Program.commandNames) : Completes word rest (word :: rest)
  | unnamed (whole : word ≠ Word.separatorText) (unlisted : word ∉ Program.commandNames) :
      Completes word rest (DefaultCommand.name :: word :: rest)

theorem completed_completes (word : String) (rest : List String) : Completes word rest (DefaultCommand.completed (word :: rest)) := by
  by_cases same : word = Word.separatorText
  · rw [DefaultCommand.completed, if_pos same]
    exact .separated same
  · by_cases listed : word ∈ Program.commandNames
    · rw [completed_named listed]
      exact .named listed
    · rw [completed_unnamed same listed]
      exact .unnamed same listed

theorem Completes.head (completes : Completes word rest completed) :
    ∃ name more, completed = name :: more ∧ name ∈ Program.commandNames := by
  cases completes with
  | separated | unnamed => exact ⟨_, _, rfl, default_listed⟩
  | named listed => exact ⟨_, _, rfl, listed⟩

theorem Completes.kept_iff (completes : Completes word rest completed) :
    completed = word :: rest ↔ word ∈ Program.commandNames := by
  cases completes with
  | separated same =>
    have other := (command_undashed default_listed).2
    constructor
    · intro kept
      exact absurd ((List.cons.inj kept).1.trans same) other
    · intro listed
      exact absurd same (command_undashed listed).2
  | named listed => exact iff_of_true rfl listed
  | unnamed whole unlisted =>
    have longer : DefaultCommand.name :: word :: rest ≠ word :: rest := by
      intro kept
      exact absurd (congrArg List.length kept) (by simp)
    exact iff_of_false longer unlisted

theorem completed_stops (words : List String) : ∀ word ∈ (DefaultCommand.completed words).head?, isFlag word = false := by
  intro first head
  cases words with
  | nil => cases head
  | cons word rest =>
    obtain ⟨name, more, made, listed⟩ := (completed_completes word rest).head
    rw [made] at head
    obtain rfl := Option.some.inj head
    exact undashed_unflagged (command_undashed listed).1

theorem completed_completed (words : List String) :
    DefaultCommand.completed (DefaultCommand.completed words) = DefaultCommand.completed words := by
  cases words with
  | nil => rfl
  | cons word rest =>
    obtain ⟨name, more, made, listed⟩ := (completed_completes word rest).head
    rw [made, completed_named listed]

theorem insert_eq (words : List String) :
    insert words = words.take (index words) ++ DefaultCommand.completed (words.drop (index words)) := by
  rw [DefaultCommand.insert, split_eq]

/-- A second scan takes the same words for flags. -/
theorem split_insert (words : List String) :
    DefaultCommand.split (insert words) = (words.take (index words), DefaultCommand.completed (words.drop (index words))) := by
  have split := split_eq words
  have ended : (DefaultCommand.split words).2 = [] → DefaultCommand.completed (words.drop (index words)) = [] := by
    intro empty
    rw [split] at empty
    exact (congrArg DefaultCommand.completed empty).trans rfl
  have again := split_replaced (completed_stops (words.drop (index words))) ended
  rw [split] at again
  rw [insert_eq]
  exact again

theorem index_insert (words : List String) : index (insert words) = index words := by
  have bound := index_le words
  rw [index, split_insert, List.length_take]
  omega

theorem drop_insert (words : List String) :
    (insert words).drop (index words) = DefaultCommand.completed (words.drop (index words)) := by
  have split := split_insert words
  rw [split_eq, index_insert] at split
  exact congrArg Prod.snd split

theorem take_insert (words : List String) : (insert words).take (index words) = words.take (index words) := by
  have split := split_insert words
  rw [split_eq, index_insert] at split
  exact congrArg Prod.fst split

theorem insert_insert (words : List String) : insert (insert words) = insert words := by
  rw [insert_eq (insert words), index_insert, take_insert, drop_insert, completed_completed, ← insert_eq]

theorem insert_finished (finished : index words = words.length) : insert words = words := by
  rw [insert_eq, finished, List.take_length, List.drop_length, DefaultCommand.completed, List.append_nil]

theorem insert_standing (stands : words[index words]? = some word) :
    insert words = words.take (index words) ++ DefaultCommand.completed (word :: words.drop (index words + 1)) := by
  rw [insert_eq, drop_stands stands]

theorem insert_kept_iff : insert words = words ↔
    index words = words.length ∨ ∃ name ∈ Program.commandNames, words[index words]? = some name := by
  cases stands : words[index words]? with
  | none =>
    have finished : index words = words.length :=
      Nat.le_antisymm (index_le words) (List.getElem?_eq_none_iff.mp stands)
    exact iff_of_true (insert_finished finished) (Or.inl finished)
  | some word =>
    have inside := inside_of_stands stands
    have whole : words = words.take (index words) ++ word :: words.drop (index words + 1) := by
      rw [← drop_stands stands, List.take_append_drop]
    have kept : insert words = words ↔ word ∈ Program.commandNames := by
      rw [← (completed_completes word (words.drop (index words + 1))).kept_iff, insert_standing stands]
      conv_lhs => rhs; rw [whole]
      exact List.append_right_inj _
    rw [kept]
    constructor
    · intro listed
      exact Or.inr ⟨word, listed, rfl⟩
    · intro found
      rcases found with finished | ⟨name, listed, same⟩
      · omega
      · obtain rfl := Option.some.inj same
        exact listed

theorem ends_insert : Ends (insert words) place ↔ Ends words place := by
  by_cases inside : index words < words.length
  · obtain ⟨word, stands⟩ : ∃ word, words[index words]? = some word := ⟨_, List.getElem?_eq_getElem inside⟩
    have further : index (insert words) < (insert words).length := by
      obtain ⟨name, more, made, _⟩ := (completed_completes word (words.drop (index words + 1))).head
      rw [index_insert, insert_standing stands, made, List.length_append, List.length_take, List.length_cons]
      omega
    rw [ends_inside further, ends_inside inside, index_insert]
  · have bound := index_le words
    rw [insert_finished (by omega)]

theorem insert_listed (stands : (insert words)[index words]? = some word) : word ∈ Program.commandNames := by
  have head : (DefaultCommand.completed (words.drop (index words))).head? = some word := by
    rw [← drop_insert, List.head?_drop, stands]
  cases behind : words.drop (index words) with
  | nil =>
    rw [behind] at head
    cases head
  | cons first rest =>
    obtain ⟨name, more, made, listed⟩ := (completed_completes first rest).head
    rw [behind, made] at head
    obtain rfl := Option.some.inj head
    exact listed

end Naming

/-- A command line, the place of its command, and the line with its command named. -/
structure Placed (words named : List String) : Prop where
  bounded : index words ≤ words.length
  /-- The scan from word to word comes to an end. -/
  ends : ∃ place, Ends words place
  /-- It ends at the place of the command, unless it has left the line behind a last flag that has no value. -/
  scanned : ∀ place, Ends words place → index words = min place words.length ∧
    (place ≤ words.length ∨ place = words.length + 1 ∧ ∃ word ∈ valued, words.getLast? = some word)
  front : named.take (index words) = words.take (index words)
  kept_iff : named = words ↔ index words = words.length ∨ ∃ name ∈ Program.commandNames, words[index words]? = some name
  /-- A separator at the place is all that is ever lost. -/
  separated : words[index words]? = some Word.separatorText →
    named = words.take (index words) ++ DefaultCommand.name :: words.drop (index words + 1)
  unnamed : ∀ word, words[index words]? = some word → word ≠ Word.separatorText → word ∉ Program.commandNames →
    named = words.take (index words) ++ DefaultCommand.name :: words.drop (index words)
  place : index named = index words
  /-- A second scan goes the same way, and so the first reading gets the same flags. -/
  rescanned : ∀ place, Ends named place ↔ Ends words place
  flags : Perform.preliminaryWords named = Perform.preliminaryWords words
  selects : ∀ word, named[index named]? = some word → word ∈ Program.commandNames
  settled : insert named = named

/-- Naming the command keeps every line in order: it changes nothing in front of the place, puts in one name or none, and
leaves a line in which the same place is found and in which there is nothing to name. -/
theorem command_placed (words : List String) : Placed words (insert words) where
  bounded := index_le words
  ends := exists_ends words
  scanned := by
    intro place ends
    exact ⟨ends.index, ends.within⟩
  front := take_insert words
  kept_iff := insert_kept_iff
  separated := by
    intro stands
    rw [insert_standing stands, DefaultCommand.completed, if_pos rfl]
  unnamed := by
    intro word stands whole unlisted
    rw [insert_standing stands, completed_unnamed whole unlisted, drop_stands stands]
  place := index_insert words
  rescanned := by
    intro place
    exact ends_insert
  flags := by
    rw [Perform.preliminaryWords, Perform.preliminaryWords, split_insert, split_eq words]
  selects := by
    intro word stands
    rw [index_insert] at stands
    exact insert_listed stands
  settled := insert_insert words

/-- A separator that is the value of a flag is passed, and the one behind it gives way to the command. Where a flag lacks its
value there is nothing to be named. -/
theorem command_placed_swallowing :
    insert ["--config", "--", "--", "-x"] = ["--config", "--", "both", "-x"] ∧
      index ["--no-color", "--level"] = 2 ∧ insert ["--no-color", "--level"] = ["--no-color", "--level"] := by
  have second : index ["--config", "--", "--", "-x"] = 2 := by decide +kernel
  have behind : index ["--no-color", "--level"] = 2 := by decide +kernel
  refine ⟨?_, behind, (command_placed _).kept_iff.mpr (Or.inl behind)⟩
  rw [(command_placed _).separated (by rw [second]; rfl), second]
  rfl

end TermStyle.Proofs.CommandPlace
