import Mathlib.Data.List.TakeDrop
import TermStyle.Proofs.NamedCommand

/-! Global flags by their full names. The scan for the command and both readings see the same in them: a flag with its value,
whether that stands behind an equals sign or is the next word. -/

namespace TermStyle.Proofs.SpelledFlags
open CommandLine LeadingFlags NamedCommand TwoReadings

/-- The words of one global flag, with a value that it takes. -/
inductive Spelled : List String → Prop
  | switched {flag name} (member : flag ∈ Program.globalFlags) (named : name ∈ flag.names) (effect : flag.effect = .switch) :
      Spelled [name]
  | joined {flag name kind mark text value} (member : flag ∈ Program.globalFlags) (named : name ∈ flag.names)
      (effect : flag.effect = .store kind mark) (read : kind.read text = .ok value) : Spelled [name ++ "=" ++ text]
  | apart {flag name kind mark text value} (member : flag ∈ Program.globalFlags) (named : name ∈ flag.names)
      (effect : flag.effect = .store kind mark) (argument : Plays wholeFlags text .argument) (read : kind.read text = .ok value) :
      Spelled [name, text]

variable {flag : Flag} {name text : String} {kind : Kind} {mark : String} {value : Value}

structure Full (flag : Flag) (name : String) : Prop where
  dashed : "-".toList <+: name.toList
  whole : name ≠ Word.separatorText
  long : 1 < name.toList.length
  undivided : '=' ∉ name.toList
  known : Grammar.find? wholeFlags name = some flag
  valued : ∀ kind mark, flag.effect = .store kind mark → name ∈ DefaultCommand.valued

theorem full_name (member : flag ∈ Program.globalFlags) (named : name ∈ flag.names) : Full flag name := by
  simp only [Program.globalFlags, List.mem_cons, List.not_mem_nil, or_false] at member
  rcases member with rfl | rfl | rfl | rfl <;>
    obtain rfl := List.mem_singleton.mp named <;>
    exact ⟨by decide +kernel, by decide, by decide +kernel, by decide +kernel, rfl, by simp [DefaultCommand.valued]⟩

theorem dashed_word (full : Full flag name) (behind : String) : (name ++ behind).startsWith "-" = true := by
  rw [String.startsWith_string_iff, String.toList_append]
  exact full.dashed.trans (List.prefix_append _ _)

theorem full_plays (full : Full flag name) : Plays wholeFlags name (.flag flag name none) := by
  have dashed := dashed_word full ""
  rw [String.append_empty] at dashed
  refine ⟨full.whole, ?_⟩
  rw [Word.roleOf, dashed, full.known]
  rfl

theorem joined_letters (name text : String) : (name ++ "=" ++ text).toList = name.toList ++ '=' :: text.toList := by
  simp

theorem atEquals_joined (full : Full flag name) (text : String) : Word.atEquals (name ++ "=" ++ text) = (name, some text) := by
  have apart : ∀ c ∈ name.toList, (c != '=') = true := by
    intro c member
    have other : c ≠ '=' := fun same => full.undivided (same ▸ member)
    simpa using other
  unfold Word.atEquals
  rw [joined_letters, List.span_eq_takeWhile_dropWhile, List.takeWhile_append_of_pos apart, List.dropWhile_append_of_pos apart]
  simp

theorem joined_unknown (name text : String) : Grammar.find? wholeFlags (name ++ "=" ++ text) = none := by
  have undivided : ∀ flag ∈ wholeFlags, ∀ name ∈ flag.names, '=' ∉ name.toList := by decide +kernel
  refine List.find?_eq_none.mpr fun flag member named => ?_
  have divided : '=' ∈ (name ++ "=" ++ text).toList := by simp
  exact undivided flag member _ (List.contains_iff_mem.mp named) divided

theorem joined_plays (full : Full flag name) (text : String) :
    Plays wholeFlags (name ++ "=" ++ text) (.flag flag name (some text)) := by
  have dashed : (name ++ "=" ++ text).startsWith "-" = true := by
    rw [String.append_assoc]
    exact dashed_word full _
  have size : (name ++ "=" ++ text).length = name.toList.length + (text.toList.length + 1) := by
    rw [← String.length_toList, joined_letters, List.length_append, List.length_cons]
  have longer := full.long
  have whole : name ++ "=" ++ text ≠ Word.separatorText := by
    intro same
    have divided : '=' ∈ (name ++ "=" ++ text).toList := by simp
    rw [same] at divided
    revert divided
    decide
  have apart : ((name ++ "=" ++ text).length == 1) = false := by
    rw [size, beq_eq_false_iff_ne]
    omega
  refine ⟨whole, ?_⟩
  simp only [Word.roleOf, dashed, joined_unknown, apart, atEquals_joined full, full.known]
  rfl

/-- A level is never left without its number. -/
def Leveled (entry : String × Value) : Prop := entry ≠ ("level", .list [])

theorem read_kept (read : kind.read text = .ok value) : ∃ value, Kept kind text value := by
  by_cases whole : text = Word.separatorText
  · exact ⟨_, .separated whole⟩
  · exact ⟨value, .read whole read⟩

/-- The one flag of that field takes a number, and the separator is none. -/
theorem kept_leveled (member : flag ∈ Program.globalFlags) (effect : flag.effect = .store kind mark) (read : kind.read text = .ok value)
    {left : Value} (kept : Kept kind text left) : Leveled (flag.field, left) := by
  intro same
  obtain ⟨field, rfl⟩ := Prod.mk.inj same
  simp only [Program.globalFlags, List.mem_cons, List.not_mem_nil, or_false] at member
  rcases member with rfl | rfl | rfl | rfl
  · cases effect
    cases kept with
    | read _ other =>
      obtain ⟨_, _, number⟩ := TierPrecedence.read_number other
      cases number
    | separated separator =>
      rw [separator] at read
      cases read
  · cases effect
  · simp at field
  · simp at field

theorem single_tight (name : String) : ¬ Loose [name] := by
  rintro ⟨_, _, ⟨⟩, _⟩

theorem spelled_said {words : List String} (spelled : Spelled words) :
    ∃ entry, Said wholeFlags words entry ∧ ¬ Loose words ∧ Leveled entry := by
  cases spelled with
  | switched member named effect =>
    exact ⟨_, .switched (full_plays (full_name member named)) effect, single_tight _, by simp [Leveled]⟩
  | joined member named effect read =>
    obtain ⟨left, kept⟩ := read_kept read
    exact ⟨_, .attached (joined_plays (full_name member named) _) effect kept, single_tight _, kept_leveled member effect read kept⟩
  | apart member named effect argument read =>
    have full := full_name member named
    obtain ⟨left, kept⟩ := read_kept read
    refine ⟨_, .apart (full_plays full) effect argument kept, ?_, kept_leveled member effect read kept⟩
    rintro ⟨_, _, ⟨⟩, unlisted, _⟩
    exact unlisted (full.valued _ _ effect)

/-- The scan passes over all of them, and they leave their values. -/
theorem spelled_tight {groups : List (List String)} (spelled : ∀ group ∈ groups, Spelled group) :
    Tight groups.flatten ∧ ∃ entries, Leading wholeFlags groups.flatten entries ∧ ∀ entry ∈ entries, Leveled entry := by
  induction groups with
  | nil => exact ⟨.nil, [], .nil, by simp⟩
  | cons group rest ih =>
    obtain ⟨entry, said, tight, leveled⟩ := spelled_said (spelled group (by simp))
    obtain ⟨others, entries, leading, each⟩ := ih fun later member => spelled later (by simp [member])
    refine ⟨.cons said tight others, entry :: entries, .cons said leading, ?_⟩
    simpa [leveled] using each

end TermStyle.Proofs.SpelledFlags
