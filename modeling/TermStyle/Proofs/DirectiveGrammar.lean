import TermStyle.Directive
import TermStyle.Proofs.SeparatedText
import TermStyle.Proofs.SequenceText

/-! The grammar of directives, said without reading any: a name, and perhaps a colon with a list of arguments behind
it. Reading accepts what is written that way and nothing else. The separators of a list may be chosen freely, so a
directive that was read can be written with single commas and read again. -/

namespace TermStyle.Proofs.DirectiveGrammar
open Text SeparatedText

structure IsName (text : String) : Prop where
  filled : text ≠ ""
  plain : ':' ∉ text.toList

structure IsArgument (text : String) : Prop where
  filled : text ≠ ""
  plain : ∀ c ∈ text.toList, c ≠ ',' ∧ c ≠ ';' ∧ c ≠ ':'

def IsGap (text : String) : Prop := ∀ c ∈ text.toList, c = ',' ∨ c = ';'

/-- A list of arguments as it may be written: with commas and semicolons in front of it and behind each argument. Only
behind the last argument there may be none. -/
structure Listing where
  front : String
  pieces : List (String × String)
  opening : IsGap front
  argument : ∀ piece ∈ pieces, IsArgument piece.1
  gap : ∀ piece ∈ pieces, IsGap piece.2
  apart : ∀ piece ∈ pieces.dropLast, piece.2 ≠ ""

namespace Listing

def args (listing : Listing) : List String := listing.pieces.map Prod.fst

def text (listing : Listing) : String := listing.front ++ .join (listing.pieces.map fun piece => piece.1 ++ piece.2)

end Listing

/-- The token is a way to write the directive. -/
inductive Written : String → Directive → Prop
  | bare {name : String} (named : IsName name) : Written name ⟨name, []⟩
  | listed {name : String} (named : IsName name) (listing : Listing) :
      Written (name ++ ":" ++ listing.text) ⟨name, listing.args⟩

theorem isSeparator_iff {c : Char} : Directive.isSeparator c = true ↔ c = ',' ∨ c = ';' := by
  simp [Directive.isSeparator]

theorem IsArgument.whole {text : String} (fit : IsArgument text) : ∀ c ∈ text.toList, Directive.isSeparator c = false := by
  intro c member
  have plain := fit.plain c member
  simp [Directive.isSeparator, plain.1, plain.2.1]

theorem IsArgument.run {text : String} (fit : IsArgument text) : text.toList ≠ [] := by
  intro empty
  exact fit.filled (String.toList_eq_nil_iff.mp empty)

section Lists

variable (listing : Listing)

private def letters : List (List Char × List Char) := listing.pieces.map fun piece => (piece.1.toList, piece.2.toList)

private theorem text_letters : listing.text.toList = listing.front.toList ++ laidOut (letters listing) := by
  simp [Listing.text, laidOut, letters, String.toList_join, List.flatMap_map]

private theorem letters_spaced : Spaced Directive.isSeparator (letters listing) := by
  refine ⟨?_, ?_, ?_, ?_⟩
  · intro piece member
    obtain ⟨argument, inside, rfl⟩ := List.mem_map.mp member
    exact (listing.argument argument inside).run
  · intro piece member
    obtain ⟨argument, inside, rfl⟩ := List.mem_map.mp member
    exact (listing.argument argument inside).whole
  · intro piece member c here
    obtain ⟨argument, inside, rfl⟩ := List.mem_map.mp member
    exact isSeparator_iff.mpr (listing.gap argument inside c here)
  · intro piece member
    rw [letters, ← List.map_dropLast] at member
    obtain ⟨argument, inside, rfl⟩ := List.mem_map.mp member
    intro empty
    exact listing.apart argument inside (String.toList_eq_nil_iff.mp empty)

theorem Listing.fields : Blank.fields Directive.isSeparator listing.text.toList = listing.args.map String.toList := by
  have opening : ∀ c ∈ listing.front.toList, Directive.isSeparator c = true :=
    fun c member => isSeparator_iff.mpr (listing.opening c member)
  rw [text_letters, fields_gap opening, fields_laidOut (letters_spaced listing)]
  simp [letters, Listing.args]

theorem Listing.single : ':' ∉ listing.text.toList := by
  rw [text_letters, List.mem_append, laidOut, List.mem_flatMap]
  rintro (opening | ⟨piece, member, here⟩)
  · simpa using listing.opening ':' opening
  · obtain ⟨argument, inside, rfl⟩ := List.mem_map.mp member
    rcases List.mem_append.mp here with letter | behind
    · exact ((listing.argument argument inside).plain ':' letter).2.2 rfl
    · simpa using listing.gap argument inside ':' behind

end Lists

/-- Every text without a colon is a listing. -/
theorem exists_listing {rest : List Char} (single : ':' ∉ rest) : ∃ listing : Listing, listing.text.toList = rest := by
  obtain ⟨front, pieces, cuts, spaced, rfl⟩ := exists_laidOut Directive.isSeparator rest
  have argument : ∀ piece ∈ pieces, IsArgument (.ofList piece.1) := by
    intro piece member
    refine ⟨by simpa using spaced.filled piece member, ?_⟩
    intro c letter
    rw [String.toList_ofList] at letter
    have whole := spaced.whole piece member c letter
    simp only [Directive.isSeparator, Bool.or_eq_false_iff, beq_eq_false_iff_ne] at whole
    refine ⟨whole.1, whole.2, ?_⟩
    rintro rfl
    have inside : ':' ∈ laidOut pieces := List.mem_flatMap.mpr ⟨piece, member, List.mem_append.mpr (Or.inl letter)⟩
    exact single (List.mem_append.mpr (Or.inr inside))
  have gap : ∀ piece ∈ pieces, IsGap (.ofList piece.2) := by
    intro piece member c letter
    rw [String.toList_ofList] at letter
    exact isSeparator_iff.mp (spaced.gap piece member c letter)
  let texts := pieces.map fun piece => (String.ofList piece.1, String.ofList piece.2)
  refine ⟨⟨.ofList front, texts, ?_, ?_, ?_, ?_⟩, ?_⟩
  · intro c letter
    rw [String.toList_ofList] at letter
    exact isSeparator_iff.mp (cuts c letter)
  · exact List.forall_mem_map.mpr argument
  · exact List.forall_mem_map.mpr gap
  · intro text member
    rw [← List.map_dropLast] at member
    obtain ⟨piece, inside, rfl⟩ := List.mem_map.mp member
    simpa using spaced.apart piece inside
  · simp [Listing.text, texts, laidOut, String.toList_join, List.flatMap_map]

section Reading

variable {token name : String} {directive : Directive}

theorem cut_bare {text : List Char} (plain : ':' ∉ text) : Directive.cut text = (text, none) := by
  induction text with
  | nil => rfl
  | cons c rest ih =>
    have other : c ≠ ':' := by
      rintro rfl
      exact plain (by simp)
    rw [Directive.cut, if_neg other, ih fun member => plain (by simp [member])]

theorem cut_colon {front : List Char} (plain : ':' ∉ front) (rest : List Char) :
    Directive.cut (front ++ ':' :: rest) = (front, some rest) := by
  induction front with
  | nil => rfl
  | cons c more ih =>
    have other : c ≠ ':' := by
      rintro rfl
      exact plain (by simp)
    rw [List.cons_append, Directive.cut, if_neg other, ih fun member => plain (by simp [member])]

theorem colon_cases (text : List Char) :
    ':' ∉ text ∨ ∃ front rest, ':' ∉ front ∧ text = front ++ ':' :: rest := by
  by_cases colon : ':' ∈ text
  · obtain ⟨front, rest, same, plain⟩ := List.eq_append_cons_of_mem colon
    exact Or.inr ⟨front, rest, plain, same⟩
  · exact Or.inl colon

theorem parse?_bare (named : IsName name) : Directive.parse? name = some ⟨name, []⟩ := by
  obtain ⟨c, more, letters⟩ := List.exists_cons_of_ne_nil (named.filled ∘ String.toList_eq_nil_iff.mp)
  have plain := named.plain
  rw [letters] at plain
  rw [Directive.parse?, letters, cut_bare plain]
  simp only [← letters, String.ofList_toList]

theorem parse?_colon (named : IsName name) {rest : String} (single : ':' ∉ rest.toList) :
    Directive.parse? (name ++ ":" ++ rest) =
      some ⟨name, (Blank.fields Directive.isSeparator rest.toList).map .ofList⟩ := by
  obtain ⟨c, more, letters⟩ := List.exists_cons_of_ne_nil (named.filled ∘ String.toList_eq_nil_iff.mp)
  have plain := named.plain
  have shape : (name ++ ":" ++ rest).toList = name.toList ++ ':' :: rest.toList := by simp
  rw [Directive.parse?, shape, cut_colon plain]
  simp only [letters, if_neg single]
  rw [← letters, String.ofList_toList]

theorem parse?_listed (named : IsName name) (listing : Listing) :
    Directive.parse? (name ++ ":" ++ listing.text) = some ⟨name, listing.args⟩ := by
  rw [parse?_colon named listing.single, listing.fields]
  simp

theorem written_parsed (written : Written token directive) : Directive.parse? token = some directive := by
  cases written with
  | bare named => exact parse?_bare named
  | listed named listing => exact parse?_listed named listing

/-- Nothing stands in front of the first colon, or there is a second one. -/
def Malformed (token : String) : Prop := token.toList.takeWhile (· != ':') = [] ∨ 2 ≤ token.toList.count ':'

instance (token : String) : Decidable (Malformed token) := inferInstanceAs (Decidable (_ ∨ _))

theorem takeWhile_bare {text : List Char} (plain : ':' ∉ text) : text.takeWhile (· != ':') = text := by
  apply List.takeWhile_eq_self_iff.mpr
  intro c member
  simpa using ne_of_mem_of_not_mem member plain

theorem takeWhile_colon {front : List Char} (plain : ':' ∉ front) (rest : List Char) :
    (front ++ ':' :: rest).takeWhile (· != ':') = front := by
  rw [List.takeWhile_append, takeWhile_bare plain]
  simp

theorem count_colon {front : List Char} (plain : ':' ∉ front) (rest : List Char) :
    (front ++ ':' :: rest).count ':' = rest.count ':' + 1 := by
  rw [List.count_append, List.count_eq_zero_of_not_mem plain, List.count_cons_self, Nat.zero_add]

theorem malformed_refused (malformed : Malformed token) : Directive.parse? token = none := by
  rcases colon_cases token.toList with plain | ⟨front, rest, plain, shape⟩
  · have empty : token.toList = [] := by
      rcases malformed with nameless | many
      · rwa [takeWhile_bare plain] at nameless
      · rw [List.count_eq_zero_of_not_mem plain] at many
        omega
    rw [Directive.parse?, empty]
    rfl
  · rw [Directive.parse?, shape, cut_colon plain]
    rcases malformed with nameless | many
    · rw [shape, takeWhile_colon plain] at nameless
      rw [nameless]
    · rw [shape, count_colon plain] at many
      have second : ':' ∈ rest := List.count_pos_iff.mp (by omega)
      cases front with
      | nil => rfl
      | cons c more => simp only [if_pos second]

theorem exists_written (formed : ¬ Malformed token) : ∃ directive, Written token directive := by
  rcases colon_cases token.toList with plain | ⟨front, rest, plain, shape⟩
  · have named : IsName token := by
      refine ⟨?_, plain⟩
      rintro rfl
      exact formed (Or.inl rfl)
    exact ⟨_, .bare named⟩
  · have named : IsName (.ofList front) := by
      refine ⟨?_, by simpa using plain⟩
      intro empty
      apply formed
      left
      rw [shape, takeWhile_colon plain]
      simpa using empty
    have single : ':' ∉ rest := by
      intro second
      apply formed
      right
      have counted := List.count_pos_iff.mpr second
      rw [shape, count_colon plain]
      omega
    obtain ⟨listing, text⟩ := exists_listing single
    have same : token = .ofList front ++ ":" ++ listing.text := by
      apply String.toList_inj.mp
      simp [shape, text]
    rw [same]
    exact ⟨_, .listed named listing⟩

theorem parse?_none_iff : Directive.parse? token = none ↔ Malformed token := by
  constructor
  · intro refused
    by_contra formed
    obtain ⟨directive, written⟩ := exists_written formed
    rw [written_parsed written] at refused
    cases refused
  · exact malformed_refused

theorem parse?_some_iff : Directive.parse? token = some directive ↔ Written token directive := by
  constructor
  · intro parsed
    have formed : ¬ Malformed token := by
      intro malformed
      rw [malformed_refused malformed] at parsed
      cases parsed
    obtain ⟨other, written⟩ := exists_written formed
    rw [written_parsed written] at parsed
    exact Option.some.inj parsed ▸ written
  · exact written_parsed

theorem Written.fit (written : Written token directive) :
    IsName directive.name ∧ ∀ arg ∈ directive.args, IsArgument arg := by
  cases written with
  | bare named => exact ⟨named, by simp⟩
  | listed named listing => exact ⟨named, List.forall_mem_map.mpr listing.argument⟩

/-- Single commas are enough to set arguments apart. -/
theorem fields_commas {args : List String} (fit : ∀ arg ∈ args, IsArgument arg) :
    Blank.fields Directive.isSeparator (",".intercalate args).toList = args.map String.toList := by
  have single : ∀ arg ∈ args, Blank.fields Directive.isSeparator arg.toList = [arg.toList] :=
    fun arg member => Blank.fields_run (fit arg member).run (fit arg member).whole
  have comma : ",".toList = [','] := rfl
  rw [String.toList_intercalate, comma, fields_intercalate rfl, List.flatMap_map, List.flatMap_congr single,
    ← List.map_eq_flatMap]

theorem commas_single {args : List String} (fit : ∀ arg ∈ args, IsArgument arg) :
    ':' ∉ (",".intercalate args).toList := by
  intro colon
  rw [String.toList_intercalate] at colon
  rcases SequenceText.mem_intercalate colon with between | ⟨letters, member, inside⟩
  · simp at between
  · obtain ⟨arg, listed, rfl⟩ := List.mem_map.mp member
    exact ((fit arg listed).plain ':' inside).2.2 rfl

theorem parse?_text (named : IsName directive.name) (fit : ∀ arg ∈ directive.args, IsArgument arg) :
    Directive.parse? directive.text = some directive := by
  rw [Directive.text, parse?_colon named (commas_single fit), fields_commas fit]
  simp

end Reading

/-- Reading refuses a token with nothing in front of its first colon and one with a second colon. From any other it reads
what is written there, whichever separators were chosen. That can be written again: with single commas between the
arguments it is read as the same directive. -/
theorem read_as_written :
    (∀ token, Directive.parse? token = none ↔
      token.toList.takeWhile (· != ':') = [] ∨ 2 ≤ token.toList.count ':') ∧
    (∀ token directive, Directive.parse? token = some directive ↔ Written token directive) ∧
    (∀ name, IsName name → ∀ listing : Listing,
      Directive.parse? (name ++ ":" ++ listing.text) = some ⟨name, listing.args⟩) ∧
    (∀ token directive, Directive.parse? token = some directive →
      IsName directive.name ∧ (∀ arg ∈ directive.args, IsArgument arg) ∧
      Directive.parse? (directive.name ++ ":" ++ ",".intercalate directive.args) = some directive) := by
  refine ⟨fun token => parse?_none_iff, fun token directive => parse?_some_iff, fun name => parse?_listed, ?_⟩
  intro token directive parsed
  obtain ⟨named, fit⟩ := (parse?_some_iff.mp parsed).fit
  exact ⟨named, fit, parse?_text named fit⟩

theorem read_as_written_ragged :
    Directive.parse? "bg-rgb:;,1,;;\t٣ ;x" = some ⟨"bg-rgb", ["1", "\t٣ ", "x"]⟩ ∧
    IsName "bg-rgb" ∧ (∀ arg ∈ ["1", "\t٣ ", "x"], IsArgument arg) ∧
    Directive.parse? ("bg-rgb" ++ ":" ++ ",".intercalate ["1", "\t٣ ", "x"]) = some ⟨"bg-rgb", ["1", "\t٣ ", "x"]⟩ := by
  have parsed : Directive.parse? "bg-rgb:;,1,;;\t٣ ;x" = some ⟨"bg-rgb", ["1", "\t٣ ", "x"]⟩ := by rfl
  exact ⟨parsed, read_as_written.2.2.2 _ _ parsed⟩

end TermStyle.Proofs.DirectiveGrammar
