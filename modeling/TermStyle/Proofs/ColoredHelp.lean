import TermStyle.Proofs.CompileOutput
import TermStyle.Proofs.FilledText
import TermStyle.Proofs.PlainHelp
import TermStyle.Proofs.SeparatedText
import TermStyle.Proofs.VisibleText

/-! Help with styled headings. Line feeds are thinned out and stripped only after a heading was styled, but its sequences
stand where no line feed is lost or kept because of them: the text behind the front begins with a letter, and the reset
comes right before the colon. So what is left without them is the help that was never styled. -/

namespace TermStyle.Proofs.ColoredHelp
open Text CommandLine ExceptSteps FilledText SeparatedText SequenceText UnescapedText VisibleText

def Starts (text : List Char) : Prop := ∃ c rest, text = c :: rest ∧ c ≠ '\n'

section Thinning

variable {run : Nat} {front text behind : List Char}

theorem thinned_letter {c : Char} (letter : c ≠ '\n') : Section.thinned run (c :: text) = c :: Section.thinned 0 text := by
  rw [Section.thinned]
  exact letter

theorem thinned_solid (solid : '\n' ∉ text) : Section.thinned 0 (text ++ behind) = text ++ Section.thinned 0 behind := by
  induction text with
  | nil => rfl
  | cons c rest ih =>
    obtain ⟨letter, later⟩ := List.ne_and_not_mem_of_not_mem_cons solid
    rw [List.cons_append, thinned_letter letter.symm, ih later, List.cons_append]

theorem thinned_front (filled : text ≠ []) (solid : '\n' ∉ text) :
    Section.thinned run (text ++ behind) = text ++ Section.thinned 0 behind := by
  obtain ⟨c, rest, rfl⟩ := List.exists_cons_of_ne_nil filled
  obtain ⟨letter, later⟩ := List.ne_and_not_mem_of_not_mem_cons solid
  rw [List.cons_append, thinned_letter letter.symm, thinned_solid later, List.cons_append]

/-- A run of letters parts what stands before it from what stands behind it. -/
theorem thinned_around (filled : text ≠ []) (solid : '\n' ∉ text) :
    Section.thinned run (front ++ (text ++ behind)) = Section.thinned run front ++ (text ++ Section.thinned 0 behind) := by
  fun_induction Section.thinned run front with
  | case1 run => exact thinned_front filled solid
  | case2 run rest few ih => rw [List.cons_append, Section.thinned, if_pos few, ih, List.cons_append]
  | case3 run rest many ih => rw [List.cons_append, Section.thinned, if_neg many, ih]
  | case4 run c rest letter ih => rw [List.cons_append, thinned_letter letter, ih, List.cons_append]

theorem thinned_starts (starts : Starts text) (run : Nat) : Section.thinned run text = Section.thinned 0 text ∧
    Starts (Section.thinned 0 text) := by
  obtain ⟨c, rest, rfl, letter⟩ := starts
  rw [thinned_letter letter, thinned_letter letter]
  exact ⟨rfl, c, _, rfl, letter⟩

end Thinning

section Pages

variable {title body : String} {head : List Char}

/-- What stands behind the colon of a heading. -/
def below (body : String) : List Char := '\n' :: (body.toList ++ ['\n'])

/-- What becomes of it. -/
def ending (body : String) : List Char :=
  ((Section.thinned 0 (below body)).reverse.dropWhile (· == '\n')).reverse ++ ['\n']

theorem ending_unescaped (plain : Unescaped body) : '\x1b' ∉ ending body := by
  intro member
  rcases List.mem_append.mp member with inside | last
  · have kept := List.mem_reverse.mp ((List.dropWhile_sublist _).mem (List.mem_reverse.mp inside))
    have given := thinned_mem kept
    simp only [below, List.mem_cons, List.mem_append, List.not_mem_nil, or_false] at given
    rcases given with feed | own | feed
    · cases feed
    · exact plain own
    · cases feed
  · cases List.mem_singleton.mp last

theorem tidied_page (filled : body ≠ "") (heading : Option Wording) :
    (Section.tidied (Section.render heading body)).toList =
      Blank.stripBy (· == '\n')
        (Section.thinned 0 ('\n' :: ((Section.headline heading).toList ++ (body.toList ++ ['\n'])))) ++ ['\n'] := by
  have letters : (Section.render heading body).toList =
      '\n' :: ((Section.headline heading).toList ++ (body.toList ++ ['\n'])) := by
    simp [Section.render, String.isEmpty_iff, filled]
  have page : (Section.render heading body).isEmpty = false := by
    rw [String.isEmpty_eq_false_iff, ne_eq, ← String.toList_eq_nil_iff, letters]
    exact List.cons_ne_nil _ _
  rw [Section.tidied, page, if_neg Bool.false_ne_true, String.toList_ofList, letters]

theorem tidied_titled (filled : body ≠ "") (starts : Starts head)
    (thin : ∀ behind, Section.thinned 1 (title.toList ++ ':' :: behind) = head ++ ':' :: Section.thinned 0 behind) :
    (Section.tidied (Section.render (some (.letters title)) body)).toList = head ++ ':' :: ending body := by
  have titled : (Section.headline (some (.letters title))).toList ++ (body.toList ++ ['\n']) =
      title.toList ++ ':' :: below body := by
    simp [Section.headline, below]
  have thinned : Section.thinned 0 ('\n' :: (title.toList ++ ':' :: below body)) =
      ['\n'] ++ (head ++ ':' :: Section.thinned 0 (below body)) := by
    rw [Section.thinned, if_pos (by decide), thin, List.singleton_append]
  have feed : ∀ d ∈ ['\n'], (d == '\n') = true := by simp
  have stays : ∃ c rest, head = c :: rest ∧ (c == '\n') = false := by simpa [Starts] using starts
  have colon : (':' == '\n') = false := by decide
  rw [tidied_page filled, titled, thinned, stripBy_around feed stays colon, ending, List.append_assoc]
  rfl

theorem stripBy_length (skip : Char → Bool) (text : List Char) :
    (Blank.stripBy skip text).length ≤ (text.reverse.dropWhile skip).length := by
  have parts : text.reverse = (text.dropWhile skip).reverse ++ (text.takeWhile skip).reverse := by
    rw [← List.reverse_append, List.takeWhile_append_dropWhile]
  rw [Blank.stripBy, List.length_reverse, parts, List.dropWhile_append]
  split
  next nothing => simp [List.isEmpty_iff.mp nothing]
  next => simp

end Pages

section Headings

variable {title body : String}

theorem front_row (directives : String) (tier : Tier) :
    ∃ sequences, Emphasis.front directives tier = Sequence.renderAll sequences := by
  unfold Emphasis.front
  cases compiled : (Compile.text directives tier.level).value with
  | error error => exact ⟨[], rfl⟩
  | ok front => exact ⟨_, CompileOutcome.text_shown compiled⟩

theorem heading_cases (given : Wording) (tier : Tier) : Section.heading tier given = given ∨
    ∃ sequences, Sequence.renderAll sequences ≠ "" ∧ given.text ≠ "" ∧
      Section.heading tier given = .letters (Sequence.renderAll sequences ++ given.text ++ Sequence.reset.render) := by
  obtain ⟨sequences, row⟩ := front_row Emphasis.headerDirectives tier
  simp only [Section.heading, Emphasis.header, Emphasis.styled, row, Bool.or_eq_true, String.isEmpty_iff]
  split
  next => exact .inl rfl
  next shows =>
    obtain ⟨filled, some⟩ := not_or.mp shows
    exact .inr ⟨sequences, some, filled, by rw [if_neg some]⟩

/-- With colours, a heading that is to be left out is styled like the same letters. -/
theorem heading_letters {tier : Tier} (colored : tier ≠ .none) (given : Wording) :
    Section.heading tier given = Section.heading tier (.letters given.text) := by
  cases given with
  | letters text => rfl
  | suppressed =>
    have shown : (Emphasis.front Emphasis.headerDirectives tier).isEmpty = false := by
      cases tier with
      | none => exact absurd rfl colored
      | basic | extended | truecolor => decide +kernel
    have styled (given : Wording) (filled : given.text.isEmpty = false) :
        Section.heading tier given = .letters (Emphasis.header given.text tier) := by
      rw [Section.heading, filled, shown, if_neg (by decide)]
    exact (styled .suppressed (by decide)).trans (styled (.letters _) (by decide)).symm

theorem render_solid (sequence : Sequence) : '\n' ∉ sequence.render.toList := by
  intro feed
  rcases CompileOutput.render_plain feed with same | same | same | parameter
  · cases same
  · cases same
  · cases same
  · exact absurd parameter (by decide)

theorem row_opens {sequences : List Sequence} (row : Sequence.renderAll sequences ≠ "") :
    ∃ more, (Sequence.renderAll sequences).toList = '\x1b' :: more := by
  cases sequences with
  | nil => exact absurd rfl row
  | cons sequence rest => exact ⟨_, by rw [renderAll_cons, render_toList, List.cons_append]⟩

theorem row_solid (sequences : List Sequence) : '\n' ∉ (Sequence.renderAll sequences).toList := by
  induction sequences with
  | nil => exact List.not_mem_nil
  | cons sequence rest ih =>
    rw [renderAll_cons]
    exact List.not_mem_append (render_solid sequence) ih

theorem remaining_unescaped {text : List Char} (plain : '\x1b' ∉ text) : remaining text = text := by
  have whole := remaining_literal plain []
  rwa [List.append_nil, remaining_nil, List.append_nil] at whole

theorem visible_unescaped {text : String} (plain : Unescaped text) : visible text = text := by
  rw [visible, remaining_unescaped plain, String.ofList_toList]

theorem some_given {holds : String → Prop} {given : Wording} (own : holds given.text) :
    ∀ other ∈ some given, holds other.text := by
  intro other member
  rw [← Option.mem_some.mp member]
  exact own

/-- A page of plain texts is seen as it is. -/
theorem visible_plain {heading : Option Wording} (titled : ∀ given ∈ heading, Unescaped given.text) (plain : Unescaped body) :
    visible (Section.tidied (Section.render heading body)) = Section.tidied (Section.render heading body) :=
  visible_unescaped (tidied_unescaped (render_unescaped titled plain))

theorem starts_filled (named : title ≠ "") (starts : title.toList.head? ≠ some '\n') : Starts title.toList := by
  obtain ⟨c, rest, cut⟩ := List.exists_cons_of_ne_nil (named ∘ String.toList_eq_nil_iff.mp)
  rw [cut] at starts
  exact ⟨c, rest, cut, by simpa using starts⟩

theorem tidied_plain (filled : body ≠ "") (starts : Starts title.toList) :
    (Section.tidied (Section.render (some (.letters title)) body)).toList = Section.thinned 0 title.toList ++ ':' :: ending body := by
  obtain ⟨same, thin⟩ := thinned_starts starts 1
  refine tidied_titled filled thin fun behind => ?_
  rw [← same]
  exact thinned_around (List.cons_ne_nil ':' []) (by decide)

theorem untitled_shorter (filled : body ≠ "") (starts : Starts title.toList) :
    (Section.tidied (Section.render (some .suppressed) body)).toList.length <
      (Section.tidied (Section.render (some (.letters title)) body)).toList.length := by
  have shorter := stripBy_length (· == '\n') (Section.thinned 0 (below body))
  have whole : (Section.tidied (Section.render (some .suppressed) body)).toList =
      Blank.stripBy (· == '\n') (Section.thinned 0 (below body)) ++ ['\n'] := tidied_page filled _
  rw [whole, tidied_plain filled starts]
  simp only [ending, List.length_append, List.length_cons, List.length_reverse, List.length_nil]
  omega

/-- The sequences of a heading keep their places, in front of the heading and of the colon. -/
theorem tidied_styled (filled : body ≠ "") {sequences : List Sequence} (row : Sequence.renderAll sequences ≠ "") :
    (Section.tidied (Section.render
        (some (.letters (Sequence.renderAll sequences ++ title ++ Sequence.reset.render))) body)).toList =
      (Sequence.renderAll sequences).toList ++ (Section.thinned 0 title.toList ++
        (Sequence.reset.render.toList ++ ':' :: ending body)) := by
  have rowFilled : (Sequence.renderAll sequences).toList ≠ [] := row ∘ String.toList_eq_nil_iff.mp
  have resetFilled : Sequence.reset.render.toList ≠ [] := by simp [render_toList]
  have starts : Starts ((Sequence.renderAll sequences).toList ++
      (Section.thinned 0 title.toList ++ Sequence.reset.render.toList)) := by
    obtain ⟨more, opens⟩ := row_opens row
    rw [opens]
    exact ⟨'\x1b', _, rfl, by decide⟩
  have thin (behind : List Char) :
      Section.thinned 1 ((Sequence.renderAll sequences ++ title ++ Sequence.reset.render).toList ++ ':' :: behind) =
        (Sequence.renderAll sequences).toList ++ (Section.thinned 0 title.toList ++ Sequence.reset.render.toList) ++
          ':' :: Section.thinned 0 behind := by
    simp only [String.toList_append, List.append_assoc]
    rw [thinned_front rowFilled (row_solid _), thinned_around resetFilled (render_solid _), thinned_letter (by decide)]
  rw [tidied_titled filled starts thin, List.append_assoc, List.append_assoc]

theorem visible_titled (filled : body ≠ "") (plain : Unescaped body) (unescaped : Unescaped title)
    (starts : title.toList.head? ≠ some '\n') (tier : Tier) :
    visible (Section.tidied (Section.render (some (Section.heading tier (.letters title))) body)) =
      Section.tidied (Section.render (some (.letters title)) body) := by
  rcases heading_cases (.letters title) tier with bare | ⟨sequences, row, named, styled⟩
  · rw [bare]
    exact visible_plain (some_given unescaped) plain
  · have first : Starts title.toList := starts_filled named starts
    have letters : '\x1b' ∉ Section.thinned 0 title.toList := unescaped ∘ thinned_mem
    have behind : '\x1b' ∉ ':' :: ending body := List.not_mem_cons_of_ne_of_not_mem (by decide) (ending_unescaped plain)
    rw [styled, visible, Wording.text, tidied_styled filled row, remaining_row, remaining_literal letters, remaining_sequence,
      remaining_unescaped behind, ← tidied_plain filled first, String.ofList_toList]

end Headings

section Help

variable {program body : String} {tier : Tier} {title text : Option Wording}

theorem help_body (tier : Tier) (program : String) (title text : Option Wording) :
    Section.help tier program title text = (Section.body program text).map fun body =>
      Section.tidied (Section.render (title.map (Section.heading tier)) body) := by
  rw [Section.help]
  cases Section.body program text <;> rfl

theorem body_unescaped (own : Unescaped program) (plain : ∀ given ∈ text, Unescaped given.text)
    (made : Section.body program text = .ok body) : Unescaped body := by
  cases text with
  | none =>
    cases made
    decide
  | some given =>
    cases given with
    | suppressed =>
      cases made
      decide
    | letters given =>
      obtain ⟨filled, named, rfl⟩ := map_ok_iff.mp made
      have indented := indented_unescaped (named_unescaped own (plain _ rfl) named) Section.standardIndent
      exact unescaped_append.mpr ⟨indented, by decide⟩

theorem body_returns_iff : (∃ body, Section.body program text = .ok body) ↔
    ∀ given, text = some (.letters given) → ∃ filled, Section.named program given = .ok filled := by
  cases text with
  | none => simp [Section.body]
  | some given => cases given <;> simp [Section.body, map_ok_iff]

theorem body_filled_iff (made : Section.body program text = .ok body) :
    body ≠ "" ↔ ∃ given filled, text = some (.letters given) ∧ Section.named program given = .ok filled := by
  cases text with
  | none =>
    cases made
    simp
  | some given =>
    cases given with
    | suppressed =>
      cases made
      simp
    | letters given =>
      obtain ⟨filled, named, rfl⟩ := map_ok_iff.mp made
      have some : Section.paragraph Section.standardIndent filled ≠ "" := by
        intro nothing
        have letters := congrArg String.toList nothing
        simp [Section.paragraph] at letters
      exact ⟨fun _ => ⟨given, filled, rfl, named⟩, fun _ => some⟩

structure Orderly (heading : String) : Prop where
  unescaped : Unescaped heading
  starts : heading.toList.head? ≠ some '\n'

/-- A heading as it is seen at a tier: with colours, by its letters. -/
def seen (tier : Tier) (given : Wording) : Wording := if tier = .none then given else .letters given.text

theorem seen_letters (tier : Tier) (heading : String) : seen tier (.letters heading) = .letters heading := ite_self _

theorem visible_page (orderly : ∀ heading ∈ title, Orderly heading.text) (plain : Unescaped body) (tier : Tier) :
    visible (Section.tidied (Section.render (title.map (Section.heading tier)) body)) =
      Section.tidied (Section.render (title.map (seen tier)) body) := by
  cases title with
  | none => exact visible_plain (by simp) plain
  | some heading =>
    have own := orderly heading rfl
    rw [Option.map_some, Option.map_some, seen]
    by_cases colors : tier = .none
    · rw [if_pos colors, colors, PlainHelp.heading_none]
      exact visible_plain (some_given own.unescaped) plain
    · rw [if_neg colors, heading_letters colors]
      by_cases filled : body = ""
      · subst filled
        exact visible_unescaped (tidied_unescaped (show Unescaped "" by decide))
      · exact visible_titled filled plain own.unescaped own.starts tier

theorem visible_help (tier : Tier) (own : Unescaped program) (orderly : ∀ heading ∈ title, Orderly heading.text)
    (plain : ∀ given ∈ text, Unescaped given.text) :
    (Section.help tier program title text).map visible = Section.help .none program (title.map (seen tier)) text := by
  have bare : (title.map (seen tier)).map (Section.heading .none) = title.map (seen tier) := by
    rw [Option.map_map, show Section.heading .none ∘ seen tier = seen tier from funext fun _ => PlainHelp.heading_none _]
  rw [help_body, help_body, bare]
  cases made : Section.body program text with
  | error error => rfl
  | ok body => exact congrArg Except.ok (visible_page orderly (body_unescaped own plain made) tier)

/-- A heading that is to be left out is shown: a tier with colours styles it, above a text. -/
structure Exposed (tier : Tier) (program : String) (title text : Option Wording) : Prop where
  suppressed : title = some .suppressed
  colored : tier ≠ .none
  below : ∃ given filled, text = some (.letters given) ∧ Section.named program given = .ok filled

theorem exposed_differs (exposed : Exposed tier program title text) :
    Section.help .none program (title.map (seen tier)) text ≠ Section.help .none program title text := by
  obtain ⟨rfl, colored, below⟩ := exposed
  obtain ⟨given, filled, rfl, named⟩ := below
  have made : Section.body program (some (.letters given)) = .ok (Section.paragraph Section.standardIndent filled) := by
    rw [Section.body, named]
    rfl
  have starts : Starts Wording.suppressed.text.toList := starts_filled (by decide) (by decide)
  have shorter := untitled_shorter ((body_filled_iff made).mpr ⟨given, filled, rfl, named⟩) starts
  intro same
  rw [help_body, help_body, made, Option.map_some, seen, if_neg colored] at same
  have pages := Except.ok.inj same
  dsimp only at pages
  rw [Option.map_some, Option.map_some, PlainHelp.heading_none, PlainHelp.heading_none] at pages
  rw [pages] at shorter
  exact Nat.lt_irrefl _ shorter

theorem unexposed_agrees (unexposed : ¬ Exposed tier program title text) :
    Section.help .none program (title.map (seen tier)) text = Section.help .none program title text := by
  cases title with
  | none => rfl
  | some heading =>
    cases heading with
    | letters heading => rw [Option.map_some, seen_letters]
    | suppressed =>
      by_cases colors : tier = .none
      · rw [Option.map_some, seen, if_pos colors]
      · rw [help_body, help_body]
        cases made : Section.body program text with
        | error error => rfl
        | ok body =>
          have nothing : body = "" := by
            by_contra filled
            exact unexposed ⟨rfl, colors, (body_filled_iff made).mp filled⟩
          rw [nothing]
          rfl

/-- The help of a section without its sequences is the help at the lowest tier, except where a heading that is to be left
out is styled above a text: then the heading is seen, by the letters of its mark. The help at the lowest tier has no
sequences; and at every tier alike there is help unless the text asks for the name of the program in a wrong way. -/
theorem help_untiered_iff (tier : Tier) (own : Unescaped program) (orderly : ∀ heading ∈ title, Orderly heading.text)
    (plain : ∀ given ∈ text, Unescaped given.text) :
    ((Section.help tier program title text).map visible = Section.help .none program title text ↔
      ¬ Exposed tier program title text) ∧
    (Exposed tier program title text → (Section.help tier program title text).map visible =
      Section.help .none program (some (.letters "==SUPPRESS==")) text) ∧
    (∀ out, Section.help .none program title text = .ok out → Unescaped out) ∧
    ((∃ out, Section.help tier program title text = .ok out) ↔
      ∀ given, text = some (.letters given) → ∃ filled, Section.named program given = .ok filled) := by
  have shown := visible_help tier own orderly plain
  refine ⟨⟨fun same exposed => ?_, fun unexposed => ?_⟩, fun exposed => ?_, fun out returned => ?_, ?_⟩
  · exact exposed_differs exposed (shown.symm.trans same)
  · exact shown.trans (unexposed_agrees unexposed)
  · rw [shown, exposed.suppressed, Option.map_some, seen, if_neg exposed.colored]
    rfl
  · rw [help_body] at returned
    obtain ⟨body, made, rfl⟩ := map_ok_iff.mp returned
    refine tidied_unescaped (render_unescaped (fun heading given => ?_) (body_unescaped own plain made))
    obtain ⟨named, member, rfl⟩ := Option.map_eq_some_iff.mp given
    rw [PlainHelp.heading_none]
    exact (orderly named member).unescaped
  · rw [← body_returns_iff, help_body]
    simp [map_ok_iff]

theorem help_untiered_spread :
    Unescaped "huecode" ∧ Orderly "a\n\n\nb" ∧ Unescaped "\n\n%(prog)s%%\n\n" ∧
    ∃ out, Section.help .truecolor "huecode" (some (.letters "a\n\n\nb")) (some (.letters "\n\n%(prog)s%%\n\n")) = .ok out ∧
      visible out = "a\n\nb:\n  \n  \n  huecode%\n  \n" := by
  have own : Unescaped "huecode" := by decide
  have orderly : Orderly "a\n\n\nb" := ⟨by decide, by decide⟩
  have plain : Unescaped "\n\n%(prog)s%%\n\n" := by decide
  have titled : ∀ heading ∈ some (Wording.letters "a\n\n\nb"), Orderly heading.text := some_given orderly
  have filled : ∀ given ∈ some (Wording.letters "\n\n%(prog)s%%\n\n"), Unescaped given.text := some_given plain
  have bare : Section.help .none "huecode" (some (.letters "a\n\n\nb")) (some (.letters "\n\n%(prog)s%%\n\n")) =
      .ok "a\n\nb:\n  \n  \n  huecode%\n  \n" := by rfl
  have unexposed : ¬ Exposed .truecolor "huecode" (some (.letters "a\n\n\nb")) (some (.letters "\n\n%(prog)s%%\n\n")) := by
    intro exposed
    cases exposed.suppressed
  have seen := (help_untiered_iff .truecolor own titled filled).1.mpr unexposed
  rw [bare] at seen
  exact ⟨own, orderly, plain, map_ok_iff.mp seen⟩

/-- A heading that is to be left out is left out at the lowest tier only. -/
theorem suppressed_heading_shown :
    Orderly Wording.suppressed.text ∧ Unescaped "t" ∧
    Section.help .none "huecode" (some .suppressed) (some (.letters "t")) = .ok "  t\n" ∧
    (Section.help .basic "huecode" (some .suppressed) (some (.letters "t"))).map visible = .ok "==SUPPRESS==:\n  t\n" := by
  have orderly : Orderly Wording.suppressed.text := ⟨by decide, by decide⟩
  have plain : Unescaped "t" := by decide
  have own : Unescaped "huecode" := by decide
  have titled : ∀ heading ∈ some Wording.suppressed, Orderly heading.text := some_given orderly
  have given : ∀ text ∈ some (Wording.letters "t"), Unescaped text.text := some_given plain
  exact ⟨orderly, plain, rfl, (visible_help .basic own titled given).trans rfl⟩

end Help

end TermStyle.Proofs.ColoredHelp
