import TermStyle.CommandLine.Section
import TermStyle.Proofs.ExceptSteps
import TermStyle.Proofs.UnescapedText

/-! Texts filled in from a dictionary of texts. A directive writes what a value shows, cut, padded or with its letters
numbered, so without an escape character in the template and in the values there is none in what comes of them. -/

namespace TermStyle.Proofs.FilledText
open Text Percent CommandLine ExceptSteps UnescapedText

/-- The value is no number, and shows no escape character. -/
structure Inert (value : Value) : Prop where
  display : Unescaped value.display
  literal : Unescaped value.literal
  whole : Whole.number? value = none
  real : ∀ number, value ≠ .float number

section Values

variable {text : String} {entries : List (Value × Value)}

theorem text_inert (plain : Unescaped text) : Inert (.text text) := by
  refine ⟨plain, quoted_unescaped text, rfl, ?_⟩
  rintro number ⟨⟩

theorem entryLiterals_unescaped (each : ∀ entry ∈ entries, Unescaped entry.1.literal ∧ Unescaped entry.2.literal) :
    ∀ text ∈ Value.entryLiterals entries, Unescaped text := by
  induction entries with
  | nil => exact List.forall_mem_nil _
  | cons entry rest ih =>
    obtain ⟨key, value⟩ := each entry (by simp)
    have later := ih fun other member => each other (by simp [member])
    rw [Value.entryLiterals, List.forall_mem_cons]
    exact ⟨by simp [key, value, show Unescaped ": " by decide], later⟩

theorem dict_inert (each : ∀ entry ∈ entries, Unescaped entry.1.literal ∧ Unescaped entry.2.literal) :
    Inert (.dict entries) := by
  have comma : Unescaped ", " := by decide
  have inner := unescaped_intercalate comma (entryLiterals_unescaped each)
  have literal : Unescaped (Value.dict entries).literal := by
    simp [Value.literal, inner, show Unescaped "\x7b" by decide, show Unescaped "\x7d" by decide]
  refine ⟨literal, literal, rfl, ?_⟩
  rintro number ⟨⟩

end Values

section Converting

variable {d : Percent.Directive} {value : Value} {body image : List Char}

theorem pad_unescaped (plain : '\x1b' ∉ body) : '\x1b' ∉ d.pad body := by
  unfold Percent.Directive.pad
  split <;> simp [plain]

theorem asciiLiteral_unescaped (inert : Inert value) : '\x1b' ∉ asciiLiteral value := by
  rw [asciiLiteral, List.mem_flatMap]
  rintro ⟨c, member, inside⟩
  split at inside
  · cases List.mem_singleton.mp inside
    exact inert.literal member
  · exact numbered_unescaped c inside

theorem character_unescaped (inert : Inert value) (made : character d value = .ok image) : '\x1b' ∉ image := by
  unfold character at made
  split at made
  · split at made
    next c single =>
      cases made
      have own := inert.display
      rw [Unescaped, Value.display, single] at own
      exact pad_unescaped own
    · cases made
  · rw [inert.whole] at made
    cases made

theorem wholePart_refuses (inert : Inert value) : ∃ error, wholePart d value = .error error := by
  unfold wholePart
  split
  next number => exact absurd rfl (inert.real number)
  next => exact ⟨_, by rw [inert.whole]⟩

theorem real_refuses (inert : Inert value) : ∃ error, real d value = .error error := by
  unfold real
  split
  next number => exact absurd rfl (inert.real number)
  next => exact ⟨_, by rw [inert.whole]⟩

theorem convert?_unescaped (inert : Inert value) (made : convert? d value = some (.ok image)) : '\x1b' ∉ image := by
  have cut {text : List Char} (plain : '\x1b' ∉ text) (places : Nat) : '\x1b' ∉ d.pad (text.take places) :=
    pad_unescaped fun member => plain (List.mem_of_mem_take member)
  unfold convert? at made
  dsimp only at made
  split at made
  · cases made
    exact cut inert.display _
  split at made
  · cases made
    exact cut inert.literal _
  split at made
  · cases made
    exact cut (asciiLiteral_unescaped inert) _
  split at made
  · exact character_unescaped inert (Option.some.inj made)
  split at made
  · obtain ⟨error, refused⟩ := wholePart_refuses inert
    rw [refused] at made
    cases made
  split at made
  · rw [bits, inert.whole] at made
    cases made
  split at made
  · obtain ⟨error, refused⟩ := real_refuses inert
    rw [refused] at made
    cases made
  · cases made

end Converting

section Reading

variable {text after : List Char} {values rest : List Value}

theorem flags_suffix (text : List Char) (known : Flags) : (flags text known).2 <:+ text := by
  fun_induction flags text known with
  | case6 => exact List.suffix_rfl
  | _ => exact List.IsSuffix.trans ‹_› (List.suffix_cons _ _)

theorem fieldName_suffix {depth : Nat} {name : List Char} (read : fieldName depth text = some (name, after)) :
    after <:+ text := by
  fun_induction fieldName depth text generalizing name with
  | case1 => cases read
  | case2 rest =>
    cases read
    exact List.suffix_cons _ _
  | case3 depth rest ih =>
    obtain ⟨⟨inner, behind⟩, deeper, same⟩ := Option.map_eq_some_iff.mp read
    cases same
    exact (ih deeper).trans (List.suffix_cons _ _)
  | case4 depth rest ih =>
    obtain ⟨⟨inner, behind⟩, deeper, same⟩ := Option.map_eq_some_iff.mp read
    cases same
    exact (ih deeper).trans (List.suffix_cons _ _)
  | case5 depth c rest _ _ _ ih =>
    obtain ⟨⟨inner, behind⟩, deeper, same⟩ := Option.map_eq_some_iff.mp read
    cases same
    exact (ih deeper).trans (List.suffix_cons _ _)

theorem take_cons {value : Value} (taken : take values = .ok (value, rest)) : values = value :: rest := by
  cases values with
  | nil => cases taken
  | cons first others =>
    cases taken
    rfl

theorem count_suffix {limit : Limit} {number : Option Int} (read : count limit text values = .ok (number, after, rest)) :
    after <:+ text ∧ rest <:+ values := by
  unfold count at read
  split at read
  · obtain ⟨⟨value, others⟩, taken, read⟩ := bind_ok_iff.mp read
    rw [take_cons taken]
    dsimp only at read
    split at read
    · split at read
      · cases read
        exact ⟨List.suffix_cons _ _, List.suffix_cons _ _⟩
      · cases read
    · cases read
  · dsimp only at read
    split at read
    · cases read
      exact ⟨List.suffix_rfl, List.suffix_rfl⟩
    · split at read
      · cases read
        exact ⟨List.drop_suffix _ _, List.suffix_rfl⟩
      · cases read

end Reading

/-! ## Directives in stages -/

/-- The value of the field that is named up to the closing parenthesis, and what stands behind that. -/
def fielded (find : String → Option Value) (body : List Char) : Except Error (List Value × List Char) :=
  match fieldName 0 body with
  | none => .error .incompleteKey
  | some named =>
    match find (.ofList named.1) with
    | some value => .ok ([value], named.2)
    | none => .error (.missingField (.ofList named.1))

/-- The values a directive takes from, and what stands behind the name of its field if it names one. -/
def opening (text : List Char) (field? : Option (String → Option Value)) (values : List Value) :
    Except Error (List Value × List Char) :=
  match text with
  | '(' :: body =>
    match field? with
    | none => .error .noDictionary
    | some find => fielded find body
  | body => .ok (values, body)

def precise (text : List Char) (values : List Value) : Except Error (Option Nat × List Char × List Value) :=
  match text with
  | '.' :: tail => (count precisionLimit tail values).map fun read => (some (read.1.getD 0).toNat, read.2)
  | tail => .ok (none, tail, values)

def unsized : List Char → List Char
  | mark :: tail => if mark == 'h' || mark == 'l' || mark == 'L' then tail else mark :: tail
  | [] => []

/-- What is written once all but the conversion was read. -/
def converted (position : List Char → Nat) (known : Flags) (width : Option Int) (read : Option Nat × List Char × List Value) :
    Except Error (List Char × List Char × List Value) :=
  match unsized read.2.1 with
  | [] => .error .incomplete
  | conversion :: after => do
    let taken ← take read.2.2
    let room := (width.getD 0).natAbs
    match convert? ⟨known, if room < spaceLimit then room else 0, read.1, conversion⟩ taken.1 with
    | some image =>
      let image ← image
      if room < spaceLimit || room = widthLimit.bound then return (image, after, taken.2)
      throw .noSpace
    | none => throw (.unsupported conversion (position after))

/-- The width makes a directive lean to the left if it is negative. -/
def leaning (known : Flags) (width : Option Int) : Flags :=
  if width.any (· < 0) then { known with left := true } else known

/-- What is written once the values are known. -/
def written (position : List Char → Nat) (opened : List Value × List Char) : Except Error (List Char × List Char × List Value) := do
  let known := flags opened.2 .none
  let wide ← count widthLimit known.2 opened.1
  converted position (leaning known.1 wide.1) wide.1 (← precise wide.2.1 wide.2.2)

theorem opening_field (body : List Char) (find : String → Option Value) (values : List Value) :
    opening ('(' :: body) (some find) values = fielded find body := rfl

theorem opening_fieldless {text : List Char} (fieldless : ∀ body, text ≠ '(' :: body)
    (field? : Option (String → Option Value)) (values : List Value) : opening text field? values = .ok (values, text) := by
  unfold opening
  split
  next body => exact absurd rfl (fieldless body)
  next => rfl

theorem precise_point (tail : List Char) (values : List Value) : precise ('.' :: tail) values =
    (count precisionLimit tail values).map fun read => (some (read.1.getD 0).toNat, read.2) := rfl

theorem precise_pointless {text : List Char} (pointless : ∀ tail, text ≠ '.' :: tail) (values : List Value) :
    precise text values = .ok (none, text, values) := by
  unfold precise
  split
  next tail => exact absurd rfl (pointless tail)
  next => rfl

theorem directive_stages (index : Nat) (text : List Char) (field? : Option (String → Option Value)) (values : List Value) :
    directive index text field? values =
      opening text field? values >>= written fun after => index + (text.length - after.length) - 1 := by
  unfold directive
  extract_lets finish
  have finishes (opened : List Value × List Char) :
      finish opened = written (fun after => index + (text.length - after.length) - 1) opened := by
    refine bind_congr fun wide => ?_
    obtain ⟨width, body, left⟩ := wide
    dsimp only
    split
    next tail =>
      rw [precise_point]
      cases count precisionLimit tail left <;> rfl
    next pointless =>
      rw [precise_pointless pointless]
      rfl
  clear_value finish
  split
  next body =>
    cases field? with
    | none => rfl
    | some find =>
      dsimp only
      rw [opening_field, fielded]
      cases fieldName 0 body with
      | none => rfl
      | some named =>
        dsimp only
        cases find (.ofList named.1) with
        | none => rfl
        | some value => exact finishes _
  next fieldless =>
    rw [opening_fieldless fieldless]
    exact finishes _

section Writing

variable {text image after : List Char} {values rest : List Value} {field? : Option (String → Option Value)}

theorem fielded_inert {find : String → Option Value} {body : List Char} {opened : List Value × List Char}
    (read : fielded find body = .ok opened) (fields : ∀ name value, find name = some value → Inert value) :
    (∀ value ∈ opened.1, Inert value) ∧ opened.2 <:+ body := by
  unfold fielded at read
  split at read
  next => cases read
  next named closed =>
    split at read
    next value found =>
      cases read
      refine ⟨?_, fieldName_suffix closed⟩
      rw [List.forall_mem_singleton]
      exact fields _ value found
    next => cases read

theorem opening_inert {opened : List Value × List Char} (read : opening text field? values = .ok opened)
    (fields : ∀ find ∈ field?, ∀ name value, find name = some value → Inert value) (inert : ∀ value ∈ values, Inert value) :
    (∀ value ∈ opened.1, Inert value) ∧ opened.2 <:+ text := by
  unfold opening at read
  split at read
  next body =>
    split at read
    next => cases read
    next find =>
      obtain ⟨given, behind⟩ := fielded_inert read (fields find rfl)
      exact ⟨given, behind.trans (List.suffix_cons _ _)⟩
  next =>
    cases read
    exact ⟨inert, List.suffix_rfl⟩

theorem precise_suffix {precision : Option Nat × List Char × List Value} (read : precise text values = .ok precision) :
    precision.2.1 <:+ text ∧ precision.2.2 <:+ values := by
  unfold precise at read
  split at read
  · obtain ⟨⟨number, behind, left⟩, counted, rfl⟩ := map_ok_iff.mp read
    obtain ⟨shorter, fewer⟩ := count_suffix counted
    exact ⟨shorter.trans (List.suffix_cons _ _), fewer⟩
  · cases read
    exact ⟨List.suffix_rfl, List.suffix_rfl⟩

theorem unsized_suffix (text : List Char) : unsized text <:+ text := by
  unfold unsized
  split
  · split
    · exact List.suffix_cons _ _
    · exact List.suffix_rfl
  · exact List.suffix_rfl

theorem converted_unescaped {position : List Char → Nat} {known : Flags} {width : Option Int}
    {read : Option Nat × List Char × List Value} (made : converted position known width read = .ok (image, after, rest))
    (inert : ∀ value ∈ read.2.2, Inert value) : '\x1b' ∉ image ∧ after <:+ read.2.1 ∧ ∀ value ∈ rest, Inert value := by
  have shorter := unsized_suffix read.2.1
  unfold converted at made
  split at made
  next => cases made
  next conversion behind same =>
    rw [same] at shorter
    obtain ⟨⟨value, others⟩, taken, made⟩ := bind_ok_iff.mp made
    rw [take_cons taken, List.forall_mem_cons] at inert
    dsimp only at made
    split at made
    next image? drawn =>
      obtain ⟨_, rfl, made⟩ := bind_ok_iff.mp made
      split at made
      · cases made
        exact ⟨convert?_unescaped inert.1 drawn, (List.suffix_cons _ _).trans shorter, inert.2⟩
      · cases made
    next => cases made

theorem written_unescaped {position : List Char → Nat} {opened : List Value × List Char}
    (made : written position opened = .ok (image, after, rest)) (inert : ∀ value ∈ opened.1, Inert value) :
    '\x1b' ∉ image ∧ after <:+ opened.2 ∧ ∀ value ∈ rest, Inert value := by
  obtain ⟨wide, counted, made⟩ := bind_ok_iff.mp made
  obtain ⟨precision, read, made⟩ := bind_ok_iff.mp made
  obtain ⟨behindWidth, left⟩ := count_suffix counted
  obtain ⟨behindPoint, fewer⟩ := precise_suffix read
  obtain ⟨plain, behind, others⟩ := converted_unescaped made fun value member => inert value (left.subset (fewer.subset member))
  exact ⟨plain, behind.trans (behindPoint.trans (behindWidth.trans (flags_suffix _ _))), others⟩

theorem directive_unescaped {index : Nat} (made : directive index text field? values = .ok (image, after, rest))
    (fields : ∀ find ∈ field?, ∀ name value, find name = some value → Inert value) (inert : ∀ value ∈ values, Inert value) :
    '\x1b' ∉ image ∧ after <:+ text ∧ ∀ value ∈ rest, Inert value := by
  rw [directive_stages] at made
  obtain ⟨opened, read, made⟩ := bind_ok_iff.mp made
  obtain ⟨given, body⟩ := opening_inert read fields inert
  obtain ⟨plain, behind, others⟩ := written_unescaped made given
  exact ⟨plain, behind.trans body, others⟩

/-- What stands between the directives is copied. -/
theorem expand_unescaped {fuel index : Nat} (expanded : expand fuel index text field? values = .ok (image, rest))
    (plain : '\x1b' ∉ text) (fields : ∀ find ∈ field?, ∀ name value, find name = some value → Inert value)
    (inert : ∀ value ∈ values, Inert value) : '\x1b' ∉ image := by
  fun_induction expand fuel index text field? values generalizing image rest with
  | case1 =>
    cases expanded
    exact List.not_mem_nil
  | case2 =>
    cases expanded
    exact List.not_mem_nil
  | case3 fuel index tail field? values ih =>
    obtain ⟨⟨others, left⟩, expanded, made⟩ := bind_ok_iff.mp expanded
    cases made
    have behind : '\x1b' ∉ tail := fun member => plain (by simp [member])
    simpa using ih expanded behind fields inert
  | case4 fuel index tail field? values _ ih =>
    obtain ⟨⟨drawn, behind, given⟩, directed, expanded⟩ := bind_ok_iff.mp expanded
    obtain ⟨⟨others, left⟩, expanded, made⟩ := bind_ok_iff.mp expanded
    cases made
    obtain ⟨own, suffix, givens⟩ := directive_unescaped directed fields inert
    have later : '\x1b' ∉ behind := fun member => plain (List.mem_cons_of_mem _ (suffix.subset member))
    exact List.not_mem_append own (ih behind given expanded later fields givens)
  | case5 fuel index c tail field? values _ _ ih =>
    obtain ⟨⟨others, left⟩, expanded, made⟩ := bind_ok_iff.mp expanded
    cases made
    obtain ⟨first, behind⟩ := List.ne_and_not_mem_of_not_mem_cons plain
    exact List.not_mem_cons_of_ne_of_not_mem first (ih expanded behind fields inert)

end Writing

section Naming

variable {program text out : String}

theorem named_unescaped (own : Unescaped program) (plain : Unescaped text) (filled : Section.named program text = .ok out) :
    Unescaped out := by
  unfold Section.named at filled
  split at filled
  next =>
    obtain ⟨⟨image, left⟩, expanded, made⟩ := bind_ok_iff.mp filled
    cases made
    rw [unescaped_ofList]
    refine expand_unescaped expanded plain ?_ ?_
    · rintro find ⟨⟩ name value found
      obtain ⟨before, after, cut, _⟩ := List.lookup_eq_some_iff.mp found
      have member : (name, value) ∈ [("prog", Value.text program)] := by simp [cut]
      cases List.mem_singleton.mp member
      exact text_inert own
    · rw [List.forall_mem_singleton]
      apply dict_inert
      rw [List.map_singleton, List.forall_mem_singleton]
      exact ⟨quoted_unescaped _, quoted_unescaped _⟩
  next =>
    cases filled
    exact plain

end Naming

end TermStyle.Proofs.FilledText
