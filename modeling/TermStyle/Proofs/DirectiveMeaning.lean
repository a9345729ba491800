import TermStyle.Proofs.ArgumentValues
import TermStyle.Proofs.CompileOutcome
import TermStyle.Proofs.DirectiveGrammar

/-! What a directive comes to. A token contributes a sequence exactly if it is a directive whose attribute the tier shows
and whose arguments fit the attribute. The parameters of the sequence are the numbers that the arguments stand for. -/

namespace TermStyle.Proofs.DirectiveMeaning
open Text ArgumentValues CompileOutcome DirectiveGrammar ExceptSteps

/-- The arguments fit the attribute, and these are the parameters that they make. -/
inductive Fits : Attribute → List String → List Nat → Prop
  | fixed (code : Nat) (args : List String) : Fits (.fixed code) args [code]
  | palette (layer : Layer) {arg : String} {index : Nat} (number : IsNumber arg index) (inside : index ≤ 255) :
      Fits (.palette layer) [arg] [layer.parameter, 5, index]
  | channels (layer : Layer) {first second third : String} {red green blue : Nat}
      (numbers : IsNumber first red ∧ IsNumber second green ∧ IsNumber third blue)
      (inside : red ≤ 255 ∧ green ≤ 255 ∧ blue ≤ 255) :
      Fits (.channels layer) [first, second, third] [layer.parameter, 2, red, green, blue]
  | hex (layer : Layer) {arg : String} {red green blue : Nat} (color : IsHex arg red green blue) :
      Fits (.hex layer) [arg] [layer.parameter, 2, red, green, blue]

section Attributes

variable {spec : Attribute} {args : List String}

theorem mapM_three {first second third : String} {red green blue : Option (Fin 256)} :
    [first, second, third].mapM Attribute.channel? = .ok [red, green, blue] ↔
      Attribute.channel? first = .ok red ∧ Attribute.channel? second = .ok green ∧ Attribute.channel? third = .ok blue := by
  simp only [List.mapM_cons, List.mapM_nil]
  cases Attribute.channel? first <;> cases Attribute.channel? second <;> cases Attribute.channel? third <;>
    simp [bind, Except.bind, pure, Except.pure]

theorem made_fits {sequence : Sequence} (made : spec.sequence? args = .ok (some sequence)) :
    Fits spec args sequence.parameters := by
  cases spec with
  | fixed code =>
    obtain rfl := Option.some.inj (Except.ok.inj made)
    exact .fixed code args
  | palette layer =>
    simp only [Attribute.sequence?] at made
    split at made
    next arg =>
      obtain ⟨channel, read, found⟩ := bind_ok_iff.mp made
      obtain ⟨index, rfl, rfl⟩ := Option.map_eq_some_iff.mp (Except.ok.inj found)
      exact .palette layer (channel?_some_iff.mp read).1 (Nat.le_of_lt_succ index.isLt)
    next => cases made
  | channels layer =>
    simp only [Attribute.sequence?] at made
    split at made
    next first second third =>
      obtain ⟨channels, read, found⟩ := bind_ok_iff.mp made
      split at found
      next red green blue =>
        obtain rfl := Option.some.inj (Except.ok.inj found)
        obtain ⟨one, two, three⟩ := mapM_three.mp read
        refine .channels layer ⟨(channel?_some_iff.mp one).1, (channel?_some_iff.mp two).1, (channel?_some_iff.mp three).1⟩ ?_
        exact ⟨Nat.le_of_lt_succ red.isLt, Nat.le_of_lt_succ green.isLt, Nat.le_of_lt_succ blue.isLt⟩
      next => cases found
    next => cases made
  | hex layer =>
    simp only [Attribute.sequence?] at made
    split at made
    next arg =>
      obtain ⟨color, read, rfl⟩ := Option.map_eq_some_iff.mp (Except.ok.inj made)
      exact .hex layer (ofHex_isHex (toOption_some_iff.mp read))
    next => cases made

theorem channel?_reads {text : String} {value : Nat} (number : IsNumber text value) (inside : value ≤ 255)
    (short : text.length ≤ Numeral.digitLimit) :
    Attribute.channel? text = .ok (some ⟨value, Nat.lt_succ_of_le inside⟩) :=
  channel?_some_iff.mpr ⟨number, short⟩

theorem fits_makes {parameters : List Nat} (short : ∀ arg ∈ args, arg.length ≤ Numeral.digitLimit)
    (fits : Fits spec args parameters) :
    ∃ sequence, spec.sequence? args = .ok (some sequence) ∧ sequence.parameters = parameters := by
  cases fits with
  | fixed code => exact ⟨.code code, rfl, rfl⟩
  | palette layer number inside =>
    have read := channel?_reads number inside (short _ (by simp))
    exact ⟨_, by rw [Attribute.sequence?, read]; rfl, rfl⟩
  | @channels layer first second third red green blue numbers inside =>
    have read := mapM_three.mpr ⟨channel?_reads numbers.1 inside.1 (short _ (by simp)),
      channel?_reads numbers.2.1 inside.2.1 (short _ (by simp)), channel?_reads numbers.2.2 inside.2.2 (short _ (by simp))⟩
    refine ⟨.direct layer ⟨⟨red, Nat.lt_succ_of_le inside.1⟩, ⟨green, Nat.lt_succ_of_le inside.2.1⟩,
      ⟨blue, Nat.lt_succ_of_le inside.2.2⟩⟩, ?_, rfl⟩
    rw [Attribute.sequence?, read]
    rfl
  | hex layer color =>
    obtain ⟨made, read, rfl, rfl, rfl⟩ := ofHex_reads color
    refine ⟨.direct layer made, ?_, rfl⟩
    rw [Attribute.sequence?, read]
    rfl

end Attributes

section Tokens

variable {token : String} {tier : Int}

def compiled (tier : Int) (token : String) : Except Numeral.Error String :=
  (Compile.tokens tier [token]).value.map Sequence.renderAll

theorem read_known_iff {spec : Attribute} {args : List String} : Compile.read token = .known spec args ↔
    ∃ directive, Written token directive ∧ Attribute.lookup? directive.name = some spec ∧ directive.args = args := by
  simp only [← parse?_some_iff]
  unfold Compile.read
  cases parsed : Directive.parse? token with
  | none => simp
  | some directive =>
    cases found : Attribute.lookup? directive.name with
    | none => simp [found]
    | some listed => simp [found, and_comm]

theorem compiled_of_made {made : Option Sequence} (found : Compile.sequence? tier token = .ok made) :
    compiled tier token = .ok ((made.map Sequence.render).getD "") := by
  simp only [compiled, Compile.tokens, found]
  cases made with
  | none => rfl
  | some sequence => simp [Except.map, Sequence.renderAll]

theorem readable_of_short (short : ∀ directive, Written token directive → ∀ arg ∈ directive.args, arg.length ≤ Numeral.digitLimit) :
    ¬ Unreadable tier token := by
  rintro ⟨spec, args, known, _, _, arg, member, overlong⟩
  obtain ⟨directive, written, _, rfl⟩ := read_known_iff.mp known
  have bound := short directive written arg member
  have long := overlong.long
  rw [String.length_toList] at long
  omega

end Tokens

/-- A token with arguments of bearable length compiles. It shows something exactly if it is written as a directive with a
listed name, the tier shows the attribute of that name, and the arguments fit it. It then shows one sequence, whose
parameters are the code of the attribute or the numbers that the arguments stand for, in their order. -/
theorem renders_iff_well_formed {token : String}
    (short : ∀ directive, Written token directive → ∀ arg ∈ directive.args, arg.length ≤ 4300) (tier : Int) :
    (∃ out, compiled tier token = .ok out) ∧
    ∀ out, compiled tier token = .ok out ∧ out ≠ "" ↔ ∃ directive spec parameters, Written token directive ∧
      Attribute.lookup? directive.name = some spec ∧ spec.minTier ≤ tier ∧ Fits spec directive.args parameters ∧
      out = "\x1b[" ++ ";".intercalate (parameters.map toString) ++ "m" := by
  have readable : ¬ Unreadable tier token := readable_of_short short
  have found := sequence?_shown readable
  have returned := compiled_of_made found
  refine ⟨⟨_, returned⟩, fun out => ⟨?_, ?_⟩⟩
  · rintro ⟨same, filled⟩
    rw [returned] at same
    obtain rfl := Except.ok.inj same
    cases contributed : shown tier token with
    | none => simp [contributed] at filled
    | some sequence =>
      obtain ⟨spec, args, known, tiered, made⟩ := shown_known contributed
      obtain ⟨directive, written, listed, rfl⟩ := read_known_iff.mp known
      exact ⟨directive, spec, _, written, listed, tiered, made_fits made, rfl⟩
  · rintro ⟨directive, spec, parameters, written, listed, tiered, fits, rfl⟩
    obtain ⟨sequence, made, rfl⟩ := fits_makes (short directive written) fits
    have known := read_known_iff.mpr ⟨directive, written, listed, rfl⟩
    refine ⟨compiled_of_made ((sequence?_tiered known tiered).trans made), ?_⟩
    intro empty
    have letters := congrArg String.toList empty
    simp at letters

/-- Needless zeros and separators, and a layer for the background. -/
def padded : String := "bg-rgb:;007,,255;0,"

theorem renders_iff_well_formed_padded :
    (∀ directive, Written padded directive → ∀ arg ∈ directive.args, arg.length ≤ 4300) ∧
    compiled 3 padded = .ok "\x1b[48;2;7;255;0m" ∧
    ∃ directive spec parameters, Written padded directive ∧ Attribute.lookup? directive.name = some spec ∧
      spec.minTier ≤ 3 ∧ Fits spec directive.args parameters ∧
      "\x1b[48;2;7;255;0m" = "\x1b[" ++ ";".intercalate (parameters.map toString) ++ "m" := by
  have parsed : Directive.parse? padded = some ⟨"bg-rgb", ["007", "255", "0"]⟩ := by rfl
  have short : ∀ directive, Written padded directive → ∀ arg ∈ directive.args, arg.length ≤ 4300 := by
    intro directive written arg member
    rw [written_parsed written] at parsed
    rw [Option.some.inj parsed] at member
    have bounded : ["007", "255", "0"].all (·.length ≤ 4300) = true := by decide
    exact of_decide_eq_true (List.all_eq_true.mp bounded arg member)
  have rendered : compiled 3 padded = .ok "\x1b[48;2;7;255;0m" := by rfl
  exact ⟨short, rendered, ((renders_iff_well_formed short 3).2 _).mp ⟨rendered, by simp⟩⟩

end TermStyle.Proofs.DirectiveMeaning
