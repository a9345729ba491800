import TermStyle.CommandLine.Help
import TermStyle.Proofs.SequenceText

/-! Texts without the escape character, with which every sequence begins. Putting texts together, filling lines with them
and indenting these brings in no new characters but blanks, line feeds and punctuation, so what is laid out from such
texts is such a text. -/

namespace TermStyle.Proofs.UnescapedText
open Text CommandLine

def Unescaped (text : String) : Prop := '\x1b' ∉ text.toList

instance (text : String) : Decidable (Unescaped text) := inferInstanceAs (Decidable ('\x1b' ∉ text.toList))

@[simp]
theorem unescaped_append {first second : String} : Unescaped (first ++ second) ↔ Unescaped first ∧ Unescaped second := by
  simp [Unescaped]

@[simp]
theorem unescaped_ofList {text : List Char} : Unescaped (.ofList text) ↔ '\x1b' ∉ text := by
  simp [Unescaped]

theorem unescaped_join {texts : List String} (each : ∀ text ∈ texts, Unescaped text) : Unescaped (String.join texts) := by
  rw [Unescaped, String.toList_join, List.mem_flatMap]
  rintro ⟨text, member, inside⟩
  exact each text member inside

theorem unescaped_intercalate {separator : String} {texts : List String} (between : Unescaped separator)
    (each : ∀ text ∈ texts, Unescaped text) : Unescaped (separator.intercalate texts) := by
  rw [Unescaped, String.toList_intercalate]
  intro member
  rcases SequenceText.mem_intercalate member with inside | ⟨text, listed, inside⟩
  · exact between inside
  · obtain ⟨part, given, rfl⟩ := List.mem_map.mp listed
    exact each part given inside

theorem unescaped_spaces (count : Nat) : Unescaped (Usage.spaces count) := by
  simp [Usage.spaces]

section Filling

variable {room width : Int} {line : String} {words : List String}

theorem fillAfter_unescaped (start : Unescaped line) (each : ∀ word ∈ words, Unescaped word) :
    ∀ filled ∈ Lines.fillAfter room width line words, Unescaped filled := by
  induction words generalizing room line with
  | nil => simpa [Lines.fillAfter] using start
  | cons word rest ih =>
    have first := each word (by simp)
    have others : ∀ later ∈ rest, Unescaped later := fun later member => each later (by simp [member])
    rw [Lines.fillAfter]
    split
    · exact ih (by simp [start, first, show Unescaped " " by decide]) others
    · intro filled member
      rcases List.mem_cons.mp member with rfl | later
      · exact start
      · exact ih first others filled later

theorem fill_unescaped (each : ∀ word ∈ words, Unescaped word) : ∀ filled ∈ Lines.fill width words, Unescaped filled := by
  cases words with
  | nil => simp [Lines.fill]
  | cons word rest => exact fillAfter_unescaped (each word (by simp)) fun later member => each later (by simp [member])

theorem cut_flatten (text : List Char) : (Lines.cut text).flatten = text := by
  fun_induction Lines.cut text with
  | case1 => rfl
  | case2 rest ih => simp [ih]
  | case3 c rest _ _ ih => simp [ih]
  | case4 c rest _ _ ended ih =>
    rw [ended] at ih
    simp [← ih]
  | case5 c rest _ _ line lines going ih =>
    rw [going] at ih
    simp [← ih]

theorem indented_unescaped {text : String} (plain : Unescaped text) (indent : Nat) : Unescaped (Lines.indented indent text) := by
  rw [Lines.indented, unescaped_ofList, List.mem_flatMap]
  rintro ⟨line, member, inside⟩
  rcases List.mem_append.mp inside with blank | own
  · cases (List.mem_replicate.mp blank).2
  · apply plain
    rw [← cut_flatten text.toList]
    exact List.mem_flatten.mpr ⟨line, member, own⟩

theorem fields_unescaped {separator : Char → Bool} {text : List Char} (plain : '\x1b' ∉ text) :
    ∀ run ∈ Blank.fields separator text, '\x1b' ∉ run := by
  induction text with
  | nil => simp [Blank.fields]
  | cons c rest ih =>
    obtain ⟨other, plain⟩ := not_or.mp (fun either => plain (List.mem_cons.mpr either))
    have runs := ih plain
    rw [Blank.fields]
    split
    · exact runs
    · split
      · intro run member
        rcases List.mem_cons.mp member with rfl | later
        · simpa using other
        · exact runs run later
      · split
        · simpa using other
        next first others same =>
          rw [same] at runs
          intro run member
          rcases List.mem_cons.mp member with rfl | later
          · have inner := runs first (by simp)
            simpa using ⟨other, inner⟩
          · exact runs run (by simp [later])

end Filling

section Sections

theorem thinned_mem {c : Char} {text : List Char} {run : Nat} (member : c ∈ Section.thinned run text) : c ∈ text := by
  fun_induction Section.thinned run text with
  | case1 => exact member
  | case2 run rest _ ih =>
    rcases List.mem_cons.mp member with rfl | later
    · simp
    · exact List.mem_cons_of_mem _ (ih later)
  | case3 run rest _ ih => exact List.mem_cons_of_mem _ (ih member)
  | case4 run first rest _ ih =>
    rcases List.mem_cons.mp member with rfl | later
    · simp
    · exact List.mem_cons_of_mem _ (ih later)

theorem stripBy_mem {skip : Char → Bool} {c : Char} {text : List Char} (member : c ∈ Blank.stripBy skip text) : c ∈ text := by
  rw [Blank.stripBy, List.mem_reverse] at member
  have inner := List.mem_reverse.mp ((List.dropWhile_sublist skip).mem member)
  exact (List.dropWhile_sublist skip).mem inner

theorem tidied_unescaped {text : String} (plain : Unescaped text) : Unescaped (Section.tidied text) := by
  unfold Section.tidied
  split
  · decide
  · rw [unescaped_ofList, List.mem_append]
    rintro (inside | ending)
    · exact plain (thinned_mem (stripBy_mem inside))
    · cases List.mem_singleton.mp ending

theorem headline_unescaped {heading : Option Wording} (title : ∀ given ∈ heading, Unescaped given.text) :
    Unescaped (Section.headline heading) := by
  cases heading with
  | none => decide
  | some given =>
    cases given with
    | suppressed => decide
    | letters text => exact unescaped_append.mpr ⟨title _ rfl, by decide⟩

theorem render_unescaped {heading : Option Wording} {body : String} (title : ∀ given ∈ heading, Unescaped given.text)
    (plain : Unescaped body) : Unescaped (Section.render heading body) := by
  unfold Section.render
  split
  · decide
  · simp [plain, headline_unescaped title, show Unescaped "\n" by decide]

end Sections

section Literals

theorem hexDigits_unescaped (width n : Nat) : '\x1b' ∉ Quoted.hexDigits width n := by
  induction width generalizing n with
  | zero => simp [Quoted.hexDigits]
  | succ width ih =>
    have digit : ∀ digit < 16, '\x1b' ≠ Nat.digitChar digit := by decide
    simp [Quoted.hexDigits, ih, digit (n % 16) (Nat.mod_lt n (by decide))]

theorem numbered_unescaped (c : Char) : '\x1b' ∉ Quoted.numbered c := by
  unfold Quoted.numbered
  dsimp only
  split_ifs <;> simp [hexDigits_unescaped]

/-- What is not shown as it is written is numbered. -/
theorem escape_unescaped {quote : Char} (plain : '\x1b' ≠ quote) (c : Char) : '\x1b' ∉ Quoted.escape quote c := by
  unfold Quoted.escape
  split
  next special =>
    rcases Bool.or_eq_true_iff.mp special with same | same
    · simp [beq_iff_eq.mp same, plain]
    · simp [beq_iff_eq.mp same]
  · split
    · decide
    · split
      · decide
      · split
        · decide
        · split
          next shown =>
            have other : '\x1b' ≠ c := by
              rintro rfl
              exact absurd shown (by decide +kernel)
            simpa using other
          · exact numbered_unescaped c

theorem escaped_unescaped {quote : Char} (plain : '\x1b' ≠ quote) (text : List Char) : '\x1b' ∉ Quoted.escaped quote text := by
  fun_induction Quoted.escaped quote text with
  | case1 a b rest code _ ih => simp [hexDigits_unescaped, ih]
  | case2 a b rest _ ih => simp [escape_unescaped plain, ih]
  | case3 c => exact escape_unescaped plain c
  | case4 => simp

theorem quoted_unescaped (text : String) : Unescaped (Quoted.quoted text) := by
  have plain : '\x1b' ≠ Quoted.quoteFor text.toList := by
    unfold Quoted.quoteFor
    split <;> decide
  rw [Quoted.quoted, unescaped_ofList]
  simp [Quoted.encode, plain, escaped_unescaped plain]

theorem int_unescaped (number : Int) : Unescaped (toString number) := by
  have digits (n : Nat) : '\x1b' ∉ n.repr.toList := fun member =>
    absurd (Nat.isDigit_of_mem_toDigits (by decide) (by decide) (Nat.toList_repr ▸ member)) (by decide)
  cases number with
  | ofNat n => exact digits n
  | negSucc n =>
    change Unescaped ("-" ++ (n + 1).repr)
    exact unescaped_append.mpr ⟨by decide, digits (n + 1)⟩

end Literals

end TermStyle.Proofs.UnescapedText
