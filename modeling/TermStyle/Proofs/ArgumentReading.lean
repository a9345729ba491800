import TermStyle.Attribute
import TermStyle.Proofs.NumeralReading

/-! Which arguments stop an attribute. An argument that is no channel, or no colour, only means that there is
no sequence. What stops the reading is a numeral beyond the limit where a channel is expected, and it does so
even if another argument has already ruled the sequence out. -/

namespace TermStyle.Proofs.ArgumentReading
open Text Numeral

/-- Basic digits only, and more of them than a numeral may have. -/
structure Overlong (text : String) : Prop where
  digit : ∀ c ∈ text.toList, Digit.isAsciiDigit c = true
  long : digitLimit < text.toList.length

private theorem run_of_digits {digits : List Char} (filled : digits ≠ [])
    (basic : ∀ c ∈ digits, Digit.isAsciiDigit c = true) : NumeralReading.IsRun digits :=
  ⟨filled, fun c member => NumeralReading.ascii_isDigit (basic c member)⟩

theorem channel?_error_iff (text : String) (error : Numeral.Error) :
    Attribute.channel? text = .error error ↔ Overlong text ∧ error = .tooLong text.toList.length := by
  simp only [Attribute.channel?]
  split
  next unfit =>
    simp only [reduceCtorEq, false_iff, not_and]
    intro overlong
    have filled : text.toList ≠ [] := List.ne_nil_of_length_pos (Nat.zero_lt_of_lt overlong.long)
    simp [filled, List.all_eq_true.mpr overlong.digit] at unfit
  next fit =>
    simp only [Bool.or_eq_true, List.isEmpty_iff, Bool.not_eq_true', not_or, Bool.not_eq_false, List.all_eq_true] at fit
    have refused := NumeralReading.read_run_error_iff (run_of_digits fit.1 fit.2) error
    rw [String.ofList_toList] at refused
    have same : Overlong text ↔ digitLimit < text.toList.length := ⟨Overlong.long, fun long => ⟨fit.2, long⟩⟩
    rw [same, ← refused]
    cases Numeral.read text <;> simp [bind, Except.bind, pure, Except.pure]

private theorem mapM_error_origin {f : α → Except ε β} {items : List α} {error : ε}
    (failed : items.mapM f = .error error) : ∃ item ∈ items, f item = .error error := by
  induction items with
  | nil => simp [pure, Except.pure] at failed
  | cons item items ih =>
    rw [List.mapM_cons] at failed
    cases first : f item with
    | error cause =>
      simp only [first, bind, Except.bind, Except.error.injEq] at failed
      exact ⟨item, by simp, failed ▸ first⟩
    | ok value =>
      cases rest : items.mapM f with
      | error cause =>
        simp only [first, rest, bind, Except.bind, Except.error.injEq] at failed
        obtain ⟨origin, member, same⟩ := ih (failed ▸ rest)
        exact ⟨origin, by simp [member], same⟩
      | ok values => simp [first, rest, bind, Except.bind, pure, Except.pure] at failed

private theorem mapM_fails {f : α → Except ε β} {items : List α} {item : α} {cause : ε} (member : item ∈ items)
    (failed : f item = .error cause) : ∃ error, items.mapM f = .error error := by
  induction items with
  | nil => simp at member
  | cons first items ih =>
    rw [List.mapM_cons]
    rcases List.mem_cons.mp member with rfl | deeper
    · exact ⟨cause, by rw [failed]; rfl⟩
    · obtain ⟨error, rest⟩ := ih deeper
      cases f first with
      | error early => exact ⟨early, rfl⟩
      | ok value => exact ⟨error, by rw [rest]; rfl⟩

def channelCount : Attribute → Nat
  | .palette _ => 1
  | .channels _ => 3
  | .fixed _ | .hex _ => 0

/-- An attribute fails where reading its channels does; what follows only chooses between a sequence and none. -/
private theorem sequence?_error_iff (spec : Attribute) (args : List String) (error : Numeral.Error) :
    spec.sequence? args = .error error ↔
      args.length = channelCount spec ∧ args.mapM Attribute.channel? = .error error := by
  cases spec with
  | fixed code => cases args <;> simp [Attribute.sequence?, channelCount, pure, Except.pure]
  | palette layer =>
    match args with
    | [] => simp [Attribute.sequence?, channelCount]
    | [arg] =>
      simp only [Attribute.sequence?, channelCount, List.mapM_cons, List.mapM_nil]
      cases Attribute.channel? arg <;> simp [bind, Except.bind, pure, Except.pure]
    | _ :: _ :: _ => simp [Attribute.sequence?, channelCount]
  | channels layer =>
    match args with
    | [red, green, blue] =>
      simp only [Attribute.sequence?, channelCount]
      cases List.mapM Attribute.channel? [red, green, blue] with
      | error cause => simp [bind, Except.bind]
      | ok channels =>
        simp only [bind, Except.bind, List.length_cons, List.length_nil, reduceCtorEq, and_false, iff_false]
        split <;> simp [pure, Except.pure]
    | [] | [_] | [_, _] | _ :: _ :: _ :: _ :: _ => simp [Attribute.sequence?, channelCount]
  | hex layer =>
    match args with
    | [] => simp [Attribute.sequence?, channelCount, pure, Except.pure]
    | [arg] | _ :: _ :: _ => simp [Attribute.sequence?, channelCount]

theorem sequence?_error {spec : Attribute} {args : List String} {error : Numeral.Error}
    (failed : spec.sequence? args = .error error) :
    args.length = channelCount spec ∧ ∃ arg ∈ args, Overlong arg ∧ error = .tooLong arg.toList.length := by
  obtain ⟨count, refused⟩ := (sequence?_error_iff spec args error).mp failed
  obtain ⟨arg, member, origin⟩ := mapM_error_origin refused
  exact ⟨count, arg, member, (channel?_error_iff arg error).mp origin⟩

theorem sequence?_fails {spec : Attribute} {args : List String} {arg : String}
    (count : args.length = channelCount spec) (member : arg ∈ args) (overlong : Overlong arg) :
    ∃ error, spec.sequence? args = .error error := by
  have origin := (channel?_error_iff arg _).mpr ⟨overlong, rfl⟩
  obtain ⟨error, refused⟩ := mapM_fails member origin
  exact ⟨error, (sequence?_error_iff spec args error).mpr ⟨count, refused⟩⟩

end TermStyle.Proofs.ArgumentReading
