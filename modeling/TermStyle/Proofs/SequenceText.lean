import TermStyle.Attribute
import TermStyle.Proofs.NumeralReading

/-! Control sequences as characters: which texts are complete sequences at a tier, and how the sequences in a
text are found again. A sequence ends at its own final letter, so what follows never becomes part of it. -/

namespace TermStyle.Proofs.SequenceText
open Text

/-- A number up to 255 in basic digits, without a needless zero in front. -/
structure IsByte (text : String) : Prop where
  filled : text ≠ ""
  basic : ∀ c ∈ text.toList, Digit.isAsciiDigit c = true
  canonical : text.toList.head? = some '0' → text = "0"
  bounded : Nat.ofDigitChars 10 text.toList 0 ≤ 255

/-- What may stand between the opening bracket and the final letter at a tier. -/
inductive Admitted (tier : Int) : String → Prop
  | fixed {name : String} {code : Nat} (listed : (name, .fixed code) ∈ Attribute.table) (tiered : 1 ≤ tier) :
      Admitted tier (toString code)
  | palette {layer index : String} (known : layer = "38" ∨ layer = "48") (byte : IsByte index) (tiered : 2 ≤ tier) :
      Admitted tier (layer ++ ";5;" ++ index)
  | direct {layer red green blue : String} (known : layer = "38" ∨ layer = "48")
      (bytes : IsByte red ∧ IsByte green ∧ IsByte blue) (tiered : 3 ≤ tier) :
      Admitted tier (layer ++ ";2;" ++ red ++ ";" ++ green ++ ";" ++ blue)

private theorem decimal_basic {n : Nat} {c : Char} (member : c ∈ n.repr.toList) : Digit.isAsciiDigit c = true := by
  have digit := Nat.isDigit_of_mem_toDigits (by decide) (by decide) (Nat.toList_repr ▸ member)
  simpa [Char.isDigit, Digit.isAsciiDigit, Char.le_def] using digit

/-- The leading digit stays in front as more digits are appended, and only zero itself starts with zero. -/
private theorem decimal_head {n : Nat} (zero : (Nat.toDigits 10 n).head? = some '0') : n = 0 := by
  induction n using Nat.strongRecOn with
  | ind n ih =>
    by_cases small : n < 10
    · rw [Nat.toDigits_of_lt_base small] at zero
      exact (by decide : ∀ n < 10, [Nat.digitChar n].head? = some '0' → n = 0) n small zero
    · rw [Nat.toDigits_of_base_le (by decide) (Nat.not_lt.mp small), List.head?_append_of_ne_nil _ Nat.toDigits_ne_nil] at zero
      have quotient := ih (n / 10) (by omega) zero
      omega

theorem byte_isByte (n : Fin 256) : IsByte (toString n.val) where
  filled := by simp
  basic := fun c member => decimal_basic (by simpa using member)
  canonical := by
    intro zero
    have none := decimal_head (by simpa using zero)
    rw [none]
    rfl
  bounded := by
    have value := Nat.ofDigitChars_ten_toDigits (n := n.val)
    simp
    omega

def Shows (tier : Int) : Sequence → Prop
  | .reset => False
  | .code parameter => 1 ≤ tier ∧ ∃ name, (name, Attribute.fixed parameter) ∈ Attribute.table
  | .palette _ _ => 2 ≤ tier
  | .direct _ _ => 3 ≤ tier

theorem Shows.tier_pos {tier : Int} {sequence : Sequence} (visible : Shows tier sequence) : 1 ≤ tier := by
  cases sequence with
  | reset => exact visible.elim
  | code parameter => exact visible.1
  | palette layer index => exact Int.le_trans (by decide) visible
  | direct layer color => exact Int.le_trans (by decide) visible

def parameterText (sequence : Sequence) : String := ";".intercalate (sequence.parameters.map toString)

theorem render_eq (sequence : Sequence) : sequence.render = Sequence.introducer ++ parameterText sequence ++ "m" := rfl

private theorem layer_known (layer : Layer) : toString layer.parameter = "38" ∨ toString layer.parameter = "48" := by
  cases layer
  · exact Or.inl rfl
  · exact Or.inr rfl

theorem Shows.admitted {tier : Int} {sequence : Sequence} (visible : Shows tier sequence) :
    Admitted tier (parameterText sequence) := by
  cases sequence with
  | reset => exact visible.elim
  | code parameter =>
    obtain ⟨tiered, name, listed⟩ := visible
    have text : parameterText (.code parameter) = toString parameter := by simp [parameterText, Sequence.parameters]
    exact text ▸ .fixed listed tiered
  | palette layer index =>
    have kind : ";5;" = ";" ++ (Nat.repr 5 ++ ";") := rfl
    have text : parameterText (.palette layer index) = toString layer.parameter ++ ";5;" ++ toString index.val := by
      simp [parameterText, Sequence.parameters, kind, String.append_assoc]
    exact text ▸ .palette (layer_known layer) (byte_isByte index) visible
  | direct layer color =>
    have kind : ";2;" = ";" ++ (Nat.repr 2 ++ ";") := rfl
    have text : parameterText (.direct layer color) =
        toString layer.parameter ++ ";2;" ++ toString color.red.val ++ ";" ++ toString color.green.val ++ ";" ++
          toString color.blue.val := by
      simp [parameterText, Sequence.parameters, kind, String.append_assoc]
    exact text ▸ .direct (layer_known layer)
      ⟨byte_isByte color.red, byte_isByte color.green, byte_isByte color.blue⟩ visible

/-! Finding sequences in a text. -/

def isParameter (c : Char) : Bool := Digit.isAsciiDigit c || c == ';'

/-- Parameters up to the final letter, and what follows it. -/
def body? : List Char → Option (List Char × List Char)
  | [] => none
  | c :: rest =>
    if c = 'm' then some ([], rest)
    else if isParameter c then (body? rest).map fun (parameters, after) => (c :: parameters, after)
    else none

/-- The parameters of the sequence that a text starts with, and what follows it. -/
def leading? : List Char → Option (List Char × List Char)
  | '\x1b' :: '[' :: rest => body? rest
  | _ => none

theorem body?_length {text parameters after : List Char} (read : body? text = some (parameters, after)) :
    after.length < text.length := by
  induction text generalizing parameters after with
  | nil => simp [body?] at read
  | cons c rest ih =>
    unfold body? at read
    split at read
    · cases read
      simp
    · split at read
      · obtain ⟨⟨inner, behind⟩, deeper, same⟩ := Option.map_eq_some_iff.mp read
        cases same
        exact Nat.lt_succ_of_lt (ih deeper)
      · cases read

theorem leading?_length {text parameters after : List Char} (read : leading? text = some (parameters, after)) :
    after.length < text.length := by
  unfold leading? at read
  split at read
  · have shorter := body?_length read
    simp only [List.length_cons]
    omega
  · cases read

/-- A sequence, kept as its parameters, or a character that belongs to none. -/
inductive Piece
  | control (parameters : List Char)
  | plain (c : Char)

/-- The pieces of a text from left to right. A sequence that has begun goes as far as its final letter. -/
def pieces : List Char → List Piece
  | [] => []
  | c :: rest =>
    match _found : leading? (c :: rest) with
    | some (parameters, after) => .control parameters :: pieces after
    | none => .plain c :: pieces rest
termination_by text => text.length
decreasing_by
  · exact leading?_length _found
  · simp

def Piece.sequence? : Piece → Option String
  | .control parameters => some (Sequence.introducer ++ .ofList parameters ++ "m")
  | .plain _ => none

def found (text : String) : List String := (pieces text.toList).filterMap Piece.sequence?

theorem body?_append {parameters : List Char} (fit : ∀ c ∈ parameters, isParameter c = true) (after : List Char) :
    body? (parameters ++ 'm' :: after) = some (parameters, after) := by
  induction parameters with
  | nil => simp [body?]
  | cons c rest ih =>
    have first := fit c (by simp)
    have inner : c ≠ 'm' := by
      rintro rfl
      exact absurd first (by decide)
    have deeper := ih fun d member => fit d (by simp [member])
    simp [body?, inner, first, deeper]

theorem mem_intercalate {c : Char} {separator : List Char} {texts : List (List Char)}
    (member : c ∈ separator.intercalate texts) : c ∈ separator ∨ ∃ text ∈ texts, c ∈ text := by
  induction texts with
  | nil => simp at member
  | cons first rest ih =>
    cases rest with
    | nil => exact Or.inr ⟨first, by simp, by simpa using member⟩
    | cons second rest =>
      rw [List.intercalate_cons_cons, List.append_assoc, List.mem_append, List.mem_append] at member
      rcases member with here | between | later
      · exact Or.inr ⟨first, by simp, here⟩
      · exact Or.inl between
      · rcases ih later with between | ⟨text, inside, here⟩
        · exact Or.inl between
        · exact Or.inr ⟨text, by simp [inside], here⟩

theorem parameterText_fit {sequence : Sequence} {c : Char} (member : c ∈ (parameterText sequence).toList) :
    isParameter c = true := by
  rw [parameterText, String.toList_intercalate] at member
  rcases mem_intercalate member with between | ⟨text, inside, here⟩
  · cases List.mem_singleton.mp between
    rfl
  · simp only [List.map_map, List.mem_map] at inside
    obtain ⟨parameter, _, rfl⟩ := inside
    have digit := decimal_basic (n := parameter) here
    simp [isParameter, digit]

theorem render_toList (sequence : Sequence) :
    sequence.render.toList = '\x1b' :: '[' :: ((parameterText sequence).toList ++ ['m']) := by
  simp [render_eq, Sequence.introducer]

/-- A sequence is read off as such, whatever stands behind it. -/
theorem pieces_render (sequence : Sequence) (behind : List Char) :
    pieces (sequence.render.toList ++ behind) = .control (parameterText sequence).toList :: pieces behind := by
  have read : leading? ('\x1b' :: '[' :: ((parameterText sequence).toList ++ 'm' :: behind)) =
      some ((parameterText sequence).toList, behind) :=
    body?_append (fun c member => parameterText_fit member) _
  have text : sequence.render.toList ++ behind = '\x1b' :: '[' :: ((parameterText sequence).toList ++ 'm' :: behind) := by
    simp [render_toList]
  rw [text, pieces]
  split
  next parameters after same =>
    rw [read] at same
    cases same
    rfl
  next none =>
    rw [read] at none
    cases none

theorem renderAll_cons (sequence : Sequence) (rest : List Sequence) :
    (Sequence.renderAll (sequence :: rest)).toList = sequence.render.toList ++ (Sequence.renderAll rest).toList := by
  simp [Sequence.renderAll]

theorem found_renderAll (sequences : List Sequence) :
    found (Sequence.renderAll sequences) = sequences.map Sequence.render := by
  induction sequences with
  | nil => simp [found, Sequence.renderAll, pieces]
  | cons sequence rest ih =>
    rw [List.map_cons, ← ih, render_eq, found, renderAll_cons, pieces_render]
    simp [found, Piece.sequence?]

end TermStyle.Proofs.SequenceText
