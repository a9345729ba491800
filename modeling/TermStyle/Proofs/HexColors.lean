import Mathlib.Data.Nat.Digits.Defs
import TermStyle.Proofs.DirectiveMeaning

/-! Colours by their hexadecimal names. A name is six digits, with a number sign in front of them or without one, and it is
read as the colour whose channels are written with these digits. A directive with such a name compiles to what the
directive with the three channels compiles to. -/

namespace TermStyle.Proofs.HexColors
open Text Compile ArgumentValues CompileOutcome DirectiveGrammar DirectiveMeaning

/-- The text is made of these digits, perhaps with a number sign in front. -/
def Marked (text : String) (digits : List Char) : Prop := text.toList = digits ∨ text.toList = '#' :: digits

def IsHexName (text : String) : Prop :=
  ∃ digits, Marked text digits ∧ digits.length = 6 ∧ ∀ c ∈ digits, c ∈ "0123456789abcdefABCDEF".toList

def printed (red green blue : Nat) : List Char :=
  [red, green, blue].flatMap fun channel => [Nat.digitChar (channel / 16), Nat.digitChar (channel % 16)]

/-- The text is a way to write the colour: in letters of either case, marked or not. -/
def Names (text : String) (color : Color) : Prop :=
  ∃ digits, Marked text digits ∧ digits.map Char.toLower = printed color.red color.green color.blue

section Digits

variable {c : Char}

theorem basic_of_toLower (small : c.toLower.toNat < 128) : c.toNat < 128 := by
  unfold Char.toLower at small
  split at small
  next capital =>
    have bound : c.toNat ≤ 'Z'.toNat := UInt32.le_iff_toNat_le.mp capital.2
    exact Nat.lt_of_le_of_lt bound (by decide)
  next => exact small

theorem toLower_digit (digit : IsHexDigit c) : c.toLower = Nat.digitChar (hexValue c) ∧ hexValue c < 16 := by
  have checked : "0123456789abcdefABCDEF".toList.all
      (fun c => c.toLower = Nat.digitChar (hexValue c) ∧ hexValue c < 16) = true := by decide +kernel
  exact of_decide_eq_true (List.all_eq_true.mp checked c digit)

theorem digit_of_toLower {n : Nat} (inside : n < 16) (same : c.toLower = Nat.digitChar n) : IsHexDigit c ∧ hexValue c = n := by
  have values : ∀ n < 16, "0123456789abcdef".toList.idxOf (Nat.digitChar n) = n ∧
      Nat.digitChar n ∈ "0123456789abcdef".toList ∧ (Nat.digitChar n).toNat < 128 := by decide
  obtain ⟨place, member, small⟩ := values n inside
  have checked : ∀ n < 128, (Char.ofNat n).toLower ∈ "0123456789abcdef".toList → IsHexDigit (.ofNat n) := by decide +kernel
  have digit := checked c.toNat (basic_of_toLower (same ▸ small))
  rw [Char.ofNat_toNat, same] at digit
  exact ⟨digit member, by rw [hexValue, same, place]⟩

end Digits

section Names

variable {text : String}

theorem pair_printed {a b : Char} (first : IsHexDigit a) (second : IsHexDigit b) :
    Nat.digitChar ((16 * hexValue a + hexValue b) / 16) = a.toLower ∧
      Nat.digitChar ((16 * hexValue a + hexValue b) % 16) = b.toLower := by
  obtain ⟨high, _⟩ := toLower_digit first
  obtain ⟨low, inside⟩ := toLower_digit second
  have quotient : (16 * hexValue a + hexValue b) / 16 = hexValue a := by omega
  have remainder : (16 * hexValue a + hexValue b) % 16 = hexValue b := by omega
  rw [quotient, remainder, high, low]
  exact ⟨rfl, rfl⟩

theorem printed_pair {a b : Char} {channel : Nat} (inside : channel < 256)
    (high : a.toLower = Nat.digitChar (channel / 16)) (low : b.toLower = Nat.digitChar (channel % 16)) :
    IsHexDigit a ∧ IsHexDigit b ∧ 16 * hexValue a + hexValue b = channel := by
  obtain ⟨first, quotient⟩ := digit_of_toLower (by omega) high
  obtain ⟨second, remainder⟩ := digit_of_toLower (by omega) low
  refine ⟨first, second, ?_⟩
  omega

theorem isHex_printed {red green blue : Nat} (hex : IsHex text red green blue) :
    ∃ digits, Marked text digits ∧ digits.map Char.toLower = printed red green blue := by
  obtain @⟨a, b, c, d, e, f, shape, digits⟩ := hex
  have redPair := pair_printed (digits a (by simp)) (digits b (by simp))
  have greenPair := pair_printed (digits c (by simp)) (digits d (by simp))
  have bluePair := pair_printed (digits e (by simp)) (digits f (by simp))
  refine ⟨[a, b, c, d, e, f], shape, ?_⟩
  simp only [printed, List.map_cons, List.map_nil, List.flatMap_cons, List.flatMap_nil, List.cons_append, List.nil_append,
    redPair, greenPair, bluePair]

theorem printed_isHex {color : Color} (names : Names text color) : IsHex text color.red color.green color.blue := by
  obtain ⟨digits, marked, same⟩ := names
  simp only [printed, List.flatMap_cons, List.flatMap_nil, List.cons_append, List.nil_append, List.map_eq_cons_iff,
    List.map_eq_nil_iff] at same
  obtain ⟨a, _, rfl, one, b, _, rfl, two, c, _, rfl, three, d, _, rfl, four, e, _, rfl, five, f, _, rfl, six, rfl⟩ := same
  obtain ⟨aDigit, bDigit, redValue⟩ := printed_pair color.red.isLt one two
  obtain ⟨cDigit, dDigit, greenValue⟩ := printed_pair color.green.isLt three four
  obtain ⟨eDigit, fDigit, blueValue⟩ := printed_pair color.blue.isLt five six
  rw [← redValue, ← greenValue, ← blueValue]
  exact .six marked (by simp [aDigit, bDigit, cDigit, dDigit, eDigit, fDigit])

theorem ofHex_iff {color : Color} : Color.ofHex text = .ok color ↔ Names text color := by
  constructor
  · intro read
    exact isHex_printed (ofHex_isHex read)
  · intro names
    obtain ⟨found, read, red, green, blue⟩ := ofHex_reads (printed_isHex names)
    have same : found = color := by
      cases found
      cases color
      simp only [Color.mk.injEq]
      exact ⟨Fin.ext red, Fin.ext green, Fin.ext blue⟩
    rw [read, same]

theorem isHex_named {red green blue : Nat} (hex : IsHex text red green blue) : IsHexName text := by
  cases hex with
  | six shape digits => exact ⟨_, shape, rfl, digits⟩

theorem named_isHex (named : IsHexName text) : ∃ red green blue, IsHex text red green blue := by
  obtain ⟨digits, marked, six, hexadecimal⟩ := named
  simp only [List.length_eq_succ_iff, List.length_eq_zero_iff] at six
  obtain ⟨a, _, rfl, b, _, rfl, c, _, rfl, d, _, rfl, e, _, rfl, f, _, rfl, rfl⟩ := six
  exact ⟨_, _, _, .six marked hexadecimal⟩

theorem isHexName_iff : (∃ color, Color.ofHex text = .ok color) ↔ IsHexName text := by
  constructor
  · rintro ⟨color, read⟩
    exact isHex_named (ofHex_isHex read)
  · intro named
    obtain ⟨red, green, blue, hex⟩ := named_isHex named
    obtain ⟨color, read, _⟩ := ofHex_reads hex
    exact ⟨color, read⟩

end Names

section Directives

/-- A character that neither ends a word nor has a part in the form of a directive. -/
def Inert (c : Char) : Prop := Blank.isBlank c = false ∧ c ≠ ',' ∧ c ≠ ';' ∧ c ≠ ':'

instance (c : Char) : Decidable (Inert c) := inferInstanceAs (Decidable (_ ∧ _))

theorem named_inert {text : String} (named : IsHexName text) : text ≠ "" ∧ ∀ c ∈ text.toList, Inert c := by
  obtain ⟨digits, marked, six, hexadecimal⟩ := named
  have checked : "#0123456789abcdefABCDEF".toList.all (fun c => Inert c) = true := by decide +kernel
  have letters : ∀ c ∈ '#' :: digits, Inert c := by
    intro c member
    have listed : c ∈ "#0123456789abcdefABCDEF".toList := by
      rcases List.mem_cons.mp member with rfl | digit
      · exact List.mem_cons_self
      · exact List.mem_cons_of_mem _ (hexadecimal c digit)
    exact of_decide_eq_true (List.all_eq_true.mp checked c listed)
  constructor
  · rintro rfl
    rcases marked with plain | sign
    · rw [← plain] at six
      exact absurd six (by decide)
    · exact absurd sign (by simp)
  · intro c member
    apply letters
    rcases marked with plain | sign
    · exact List.mem_cons_of_mem _ (plain ▸ member)
    · exact sign ▸ member

theorem number_inert {text : String} {value : Nat} (number : IsNumber text value) :
    text ≠ "" ∧ ∀ c ∈ text.toList, Inert c := by
  refine ⟨number.filled, ?_⟩
  intro c member
  obtain ⟨least, greatest⟩ := number.basic c member
  have first : 48 ≤ c.toNat := UInt32.le_iff_toNat_le.mp least
  have last : c.toNat ≤ 57 := UInt32.le_iff_toNat_le.mp greatest
  refine ⟨?_, ?_, ?_, ?_⟩
  · simp [Blank.isBlank]
    omega
  all_goals
    rintro rfl
    exact absurd (And.intro first last) (by decide)

variable {name : String} {args : List String} {spec : Attribute}

/-- One directive whose arguments need no separators of their own compiles to what its attribute makes of them. -/
theorem text_directive (named : IsName name) (solid : ∀ c ∈ name.toList, Blank.isBlank c = false)
    (listed : Attribute.lookup? name = some spec) (inert : ∀ arg ∈ args, arg ≠ "" ∧ ∀ c ∈ arg.toList, Inert c) (tier : Int) :
    Compile.text (Directive.text ⟨name, args⟩) tier =
      ⟨(if tier < spec.minTier then .ok none else spec.sequence? args).map fun made => Sequence.renderAll made.toList, []⟩ := by
  have fit : ∀ arg ∈ args, IsArgument arg := by
    intro arg member
    obtain ⟨filled, letters⟩ := inert arg member
    exact ⟨filled, fun c inside => (letters c inside).2⟩
  have known : Compile.read (Directive.text ⟨name, args⟩) = .known spec args := by
    have parsed : Directive.parse? (Directive.text ⟨name, args⟩) = some ⟨name, args⟩ := parse?_text named fit
    simp only [Compile.read, parsed, listed]
  refine text_known (words_solid ?_ ?_) known tier
  · intro empty
    exact absurd (congrArg String.toList empty) (by simp [Directive.text])
  · intro c member
    simp only [Directive.text, String.toList_append, String.toList_intercalate, List.mem_append] at member
    rcases member with (letter | colon) | listing
    · exact solid c letter
    · rw [List.mem_singleton.mp colon]
      rfl
    · rcases SequenceText.mem_intercalate listing with comma | ⟨letters, member, inside⟩
      · rw [List.mem_singleton.mp comma]
        rfl
      · obtain ⟨arg, given, rfl⟩ := List.mem_map.mp member
        exact ((inert arg given).2 c inside).1

/-- What stands in front of the attributes of a layer. -/
def ground : Layer → String
  | .foreground => ""
  | .background => "bg-"

theorem attributes_named (layer : Layer) : ∀ kind ∈ ["hex", "rgb"],
    IsName (ground layer ++ kind) ∧ ∀ c ∈ (ground layer ++ kind).toList, Blank.isBlank c = false := by
  have checked : ∀ kind ∈ ["hex", "rgb"], ground layer ++ kind ≠ "" ∧
      (ground layer ++ kind).toList.all (fun c => c ≠ ':' ∧ Blank.isBlank c = false) = true := by
    cases layer <;> decide
  intro kind member
  obtain ⟨filled, plain⟩ := checked kind member
  have letters : ∀ c ∈ (ground layer ++ kind).toList, c ≠ ':' ∧ Blank.isBlank c = false :=
    fun c inside => of_decide_eq_true (List.all_eq_true.mp plain c inside)
  exact ⟨⟨filled, fun colon => (letters _ colon).1 rfl⟩, fun c inside => (letters c inside).2⟩

theorem hex_as_channels {text : String} {color : Color} (read : Color.ofHex text = .ok color) (layer : Layer) (tier : Int) :
    Compile.text (Directive.text ⟨ground layer ++ "hex", [text]⟩) tier = Compile.text (Directive.text
      ⟨ground layer ++ "rgb", [toString color.red.val, toString color.green.val, toString color.blue.val]⟩) tier := by
  obtain ⟨hexNamed, hexSolid⟩ := attributes_named layer "hex" (by simp)
  obtain ⟨rgbNamed, rgbSolid⟩ := attributes_named layer "rgb" (by simp)
  have hexListed : Attribute.lookup? (ground layer ++ "hex") = some (.hex layer) := by cases layer <;> rfl
  have rgbListed : Attribute.lookup? (ground layer ++ "rgb") = some (.channels layer) := by cases layer <;> rfl
  have ofName : (Attribute.hex layer).sequence? [text] = .ok (some (.direct layer color)) := by
    rw [Attribute.sequence?, read]
    rfl
  have channel (value : Fin 256) : Attribute.channel? (toString value.val) = .ok (some value) := by
    have short : (toString value.val).length ≤ 3 := Nat.repr_length _ _ (by decide) (by omega)
    exact channel?_some_iff.mpr ⟨number_decimal value.val, short.trans (by decide)⟩
  have ofChannels : (Attribute.channels layer).sequence?
      [toString color.red.val, toString color.green.val, toString color.blue.val] = .ok (some (.direct layer color)) := by
    rw [Attribute.sequence?, mapM_three.mpr ⟨channel color.red, channel color.green, channel color.blue⟩]
    rfl
  have named : ∀ arg ∈ [text], arg ≠ "" ∧ ∀ c ∈ arg.toList, Inert c := by
    intro arg member
    rw [List.mem_singleton.mp member]
    exact named_inert (isHexName_iff.mp ⟨color, read⟩)
  have numbers : ∀ arg ∈ [toString color.red.val, toString color.green.val, toString color.blue.val],
      arg ≠ "" ∧ ∀ c ∈ arg.toList, Inert c := by
    intro arg member
    change arg ∈ [color.red.val, color.green.val, color.blue.val].map toString at member
    obtain ⟨value, _, rfl⟩ := List.mem_map.mp member
    exact number_inert (number_decimal value)
  rw [text_directive hexNamed hexSolid hexListed named, text_directive rgbNamed rgbSolid rgbListed numbers, ofName, ofChannels]
  rfl

end Directives

/-- Exactly the names of colours are read, and each as the colour whose channels its digits print. What a directive makes of
a name is what the directive of the same layer makes of the three channels, at every tier. -/
theorem hex_names_colors :
    (∀ text, ((∃ color, Color.ofHex text = .ok color) ↔ IsHexName text) ∧
      (¬ IsHexName text → ∃ error, Color.ofHex text = .error error)) ∧
    (∀ text color, Color.ofHex text = .ok color ↔ Names text color) ∧
    (∀ text color, Color.ofHex text = .ok color → ∀ layer tier,
      Compile.text (ground layer ++ "hex:" ++ text) tier = Compile.text (ground layer ++ "rgb:" ++
        toString color.red.val ++ "," ++ toString color.green.val ++ "," ++ toString color.blue.val) tier) := by
  refine ⟨fun text => ⟨isHexName_iff, ?_⟩, fun text color => ofHex_iff, ?_⟩
  · intro unnamed
    cases read : Color.ofHex text with
    | ok color => exact absurd (isHexName_iff.mp ⟨color, read⟩) unnamed
    | error error => exact ⟨error, rfl⟩
  · intro text color read layer tier
    have same := hex_as_channels read layer tier
    have one : Directive.text ⟨ground layer ++ "hex", [text]⟩ = ground layer ++ "hex:" ++ text := by
      have colon : "hex" ++ ":" = "hex:" := rfl
      rw [← colon, ← String.append_assoc]
      rfl
    have three (red green blue : String) : Directive.text ⟨ground layer ++ "rgb", [red, green, blue]⟩ =
        ground layer ++ "rgb:" ++ red ++ "," ++ green ++ "," ++ blue := by
      have colon : "rgb" ++ ":" = "rgb:" := rfl
      have listed : ",".intercalate [red, green, blue] = red ++ "," ++ green ++ "," ++ blue := rfl
      rw [Directive.text, listed, ← colon]
      simp only [String.append_assoc]
    rwa [one, three] at same

/-- Small and capital letters, and no number sign. -/
theorem hex_names_colors_mixed :
    Color.ofHex "fF00c8" = .ok ⟨255, 0, 200⟩ ∧ IsHexName "fF00c8" ∧
    (∀ tier, Compile.text "bg-hex:fF00c8" tier = Compile.text "bg-rgb:255,0,200" tier) ∧
    ∃ error, Color.ofHex "##ff00c" = .error error := by
  have names : Names "fF00c8" ⟨255, 0, 200⟩ := ⟨"fF00c8".toList, Or.inl rfl, by decide⟩
  have read := (hex_names_colors.2.1 _ _).mpr names
  have unnamed : ¬ IsHexName "##ff00c" := by
    rintro ⟨digits, plain | sign, six, hexadecimal⟩
    · rw [← plain] at six
      exact absurd six (by decide)
    · have letters : "##ff00c".toList = '#' :: "#ff00c".toList := rfl
      have same : "#ff00c".toList = digits := (List.cons.inj (letters.symm.trans sign)).2
      have doubled : '#' ∈ digits := by
        rw [← same]
        decide
      exact absurd (hexadecimal '#' doubled) (by decide)
  exact ⟨read, (hex_names_colors.1 _).1.mp ⟨_, read⟩, fun tier => hex_names_colors.2.2 _ _ read .background tier,
    (hex_names_colors.1 _).2 unnamed⟩

end TermStyle.Proofs.HexColors
