import TermStyle.Template

/-! How a template is read from characters. Reading goes from left to right and never back, so text without a percent
sign in front, and text without a closing brace behind, pass into the literals next to them and change no placeholder. -/

namespace TermStyle.Proofs.TemplateText
open Log Template

theorem cut?_found {text inside after : List Char} (found : cut? text = some (inside, after)) :
    text = inside ++ '}' :: after ∧ '}' ∉ inside := by
  induction text generalizing inside after with
  | nil => cases found
  | cons c rest ih =>
    rw [cut?] at found
    split at found
    next closing =>
      cases found
      exact ⟨by rw [closing]; rfl, by simp⟩
    next other =>
      obtain ⟨⟨inner, behind⟩, deeper, same⟩ := Option.map_eq_some_iff.mp found
      cases same
      obtain ⟨text, open_⟩ := ih deeper
      exact ⟨by rw [text]; rfl, by simp [open_, Ne.symm other]⟩

theorem cut?_none_iff {text : List Char} : cut? text = none ↔ '}' ∉ text := by
  induction text with
  | nil => simp [cut?]
  | cons c rest ih =>
    rw [cut?]
    split
    next closing => simp [closing]
    next other => simp [ih, Ne.symm other]

theorem cut?_append {text inside after : List Char} (found : cut? text = some (inside, after)) (back : List Char) :
    cut? (text ++ back) = some (inside, after ++ back) := by
  induction text generalizing inside after with
  | nil => cases found
  | cons c rest ih =>
    rw [List.cons_append, cut?]
    rw [cut?] at found
    split at found
    next closing =>
      cases found
      rw [if_pos closing]
    next other =>
      obtain ⟨⟨inner, behind⟩, deeper, same⟩ := Option.map_eq_some_iff.mp found
      cases same
      rw [if_neg other, ih deeper]
      rfl

def Opens (text : List Char) : Prop := ∃ rest, text = '%' :: '{' :: rest

theorem parse_closed {rest directives after : List Char} (found : cut? rest = some (directives, after)) :
    parse ('%' :: '{' :: rest) = ⟨([], directives) :: (parse after).parts, (parse after).tail⟩ := by
  rw [parse]
  split
  next other =>
    rw [found] at other
    cases other
    rfl
  next none =>
    rw [found] at none
    cases none

theorem parse_open {rest : List Char} (unclosed : cut? rest = none) :
    parse ('%' :: '{' :: rest) = ⟨[], '%' :: '{' :: rest⟩ := by
  rw [parse]
  split
  next other =>
    rw [unclosed] at other
    cases other
  next => rfl

theorem parse_literal {c : Char} {rest : List Char} (literal : ¬ Opens (c :: rest)) :
    parse (c :: rest) = (parse rest).cons c := by
  rw [parse]
  rintro more rfl rfl
  exact literal ⟨more, rfl⟩

@[simp]
theorem parse_nil : parse [] = ⟨[], []⟩ := by rw [parse]

theorem text_cons (c : Char) (template : Template) : (template.cons c).text = c :: template.text := by
  obtain ⟨parts, tail⟩ := template
  cases parts with
  | nil => rfl
  | cons part more => rfl

theorem text_closed (directives : List Char) (template : Template) :
    Template.text ⟨([], directives) :: template.parts, template.tail⟩ = '%' :: '{' :: (directives ++ '}' :: template.text) := by
  simp [Template.text]

theorem text_parse (text : List Char) : (parse text).text = text := by
  fun_induction parse text with
  | case1 => rfl
  | case2 rest directives after found behind ih =>
    obtain ⟨shape, _⟩ := cut?_found found
    rw [text_closed, ih, ← shape]
  | case3 rest unclosed => rfl
  | case4 c rest literal ih => rw [text_cons, ih]

theorem parse_unclosed {text : List Char} (unclosed : '}' ∉ text) : parse text = ⟨[], text⟩ := by
  fun_induction parse text with
  | case1 => rfl
  | case2 rest directives after found behind ih =>
    obtain ⟨shape, _⟩ := cut?_found found
    rw [shape] at unclosed
    simp at unclosed
  | case3 rest none => rfl
  | case4 c rest literal ih =>
    rw [ih fun member => unclosed (by simp [member])]
    rfl

theorem cons_tail (c : Char) (template : Template) (back : List Char) :
    Template.cons c ⟨template.parts, template.tail ++ back⟩ =
      ⟨(template.cons c).parts, (template.cons c).tail ++ back⟩ := by
  obtain ⟨parts, tail⟩ := template
  cases parts with
  | nil => rfl
  | cons part more => rfl

/-- Text behind without a closing brace closes nothing that was left open. -/
theorem parse_append {back : List Char} (unclosed : '}' ∉ back) (text : List Char) :
    parse (text ++ back) = ⟨(parse text).parts, (parse text).tail ++ back⟩ := by
  fun_induction parse text with
  | case1 => exact parse_unclosed unclosed
  | case2 rest directives after found behind ih =>
    have longer := cut?_append found back
    rw [List.cons_append, List.cons_append, parse_closed longer, ih]
  | case3 rest none =>
    have still : '}' ∉ rest ++ back := by simp [cut?_none_iff.mp none, unclosed]
    rw [List.cons_append, List.cons_append, parse_open (cut?_none_iff.mpr still)]
  | case4 c rest literal ih =>
    rw [List.cons_append]
    by_cases opens : Opens (c :: (rest ++ back))
    · -- The percent sign ends the text, and the brace behind it opens a placeholder that nothing closes.
      have ended : rest = [] := by
        obtain ⟨more, same⟩ := opens
        obtain ⟨percent, follows⟩ := List.cons.inj same
        cases rest with
        | nil => rfl
        | cons d behind => exact (literal behind percent (by rw [(List.cons.inj follows).1])).elim
      have plain : '}' ∉ c :: back := by
        obtain ⟨more, same⟩ := opens
        have percent := (List.cons.inj same).1
        simp [percent, unclosed]
      subst ended
      rw [List.nil_append, parse_unclosed plain, parse_nil]
      rfl
    · rw [parse_literal opens, ih, cons_tail]

/-- Text in front without a percent sign opens nothing. -/
theorem parse_front {front : List Char} (plain : '%' ∉ front) (text : List Char) :
    parse (front ++ text) = front.foldr Template.cons (parse text) := by
  induction front with
  | nil => rfl
  | cons c rest ih =>
    have literal : ¬ Opens (c :: (rest ++ text)) := by
      rintro ⟨more, same⟩
      exact plain (by simp [(List.cons.inj same).1])
    rw [List.cons_append, parse_literal literal, ih fun member => plain (by simp [member])]
    rfl

/-- A result with its text changed; failures and records are kept. -/
def changed (change : String → String) (result : Noted (Except Numeral.Error String)) :
    Noted (Except Numeral.Error String) :=
  ⟨result.value.map change, result.records⟩

theorem changed_changed (first second : String → String) (result : Noted (Except Numeral.Error String)) :
    changed second (changed first result) = changed (second ∘ first) result := by
  obtain ⟨value, records⟩ := result
  cases value <;> rfl

theorem changed_same (result : Noted (Except Numeral.Error String)) : changed (fun text => text) result = result := by
  obtain ⟨value, records⟩ := result
  cases value <;> rfl

theorem expandParts_cons_ok {tier : Int} {tail literal directives : List Char} {rest : List (List Char × List Char)}
    {out : String} (returned : (expandParts tier tail ((literal, directives) :: rest)).value = .ok out) :
    ∃ image text, (Compile.text (.ofList directives) tier).value = .ok image ∧
      (expandParts tier tail rest).value = .ok text ∧ out = .ofList literal ++ image ++ text := by
  rw [expandParts] at returned
  dsimp only at returned
  split at returned
  · cases returned
  next image compiled =>
    cases later : (expandParts tier tail rest).value with
    | error error => simp [later, Except.map] at returned
    | ok text =>
      simp only [later, Except.map, Except.ok.injEq] at returned
      exact ⟨image, text, compiled, rfl, returned.symm⟩

theorem expandParts_append (tier : Int) (tail back : List Char) (parts : List (List Char × List Char)) :
    expandParts tier (tail ++ back) parts = changed (· ++ .ofList back) (expandParts tier tail parts) := by
  induction parts with
  | nil => simp [expandParts, changed, Except.map]
  | cons part rest ih =>
    obtain ⟨literal, directives⟩ := part
    simp only [expandParts, ih]
    cases (Compile.text (.ofList directives) tier).value with
    | error error => rfl
    | ok image =>
      simp only [changed]
      cases (expandParts tier tail rest).value with
      | error error => rfl
      | ok text => simp [Except.map, String.append_assoc]

theorem expand_cons (c : Char) (template : Template) (tier : Int) :
    (template.cons c).expand tier = changed (.ofList [c] ++ ·) (template.expand tier) := by
  obtain ⟨parts, tail⟩ := template
  cases parts with
  | nil => simp [Template.cons, expand, expandParts, changed, Except.map, String.ofList_cons]
  | cons part rest =>
    obtain ⟨literal, directives⟩ := part
    simp only [Template.cons, expand, expandParts]
    cases (Compile.text (.ofList directives) tier).value with
    | error error => rfl
    | ok image =>
      simp only [changed]
      cases (expandParts tier tail rest).value with
      | error error => rfl
      | ok text => simp [Except.map, String.append_assoc]

theorem expand_front (front : List Char) (template : Template) (tier : Int) :
    (front.foldr Template.cons template).expand tier = changed (.ofList front ++ ·) (template.expand tier) := by
  induction front with
  | nil => simp [changed_same]
  | cons c rest ih =>
    rw [List.foldr_cons, expand_cons, ih, changed_changed]
    congr 1
    funext text
    simp [String.append_assoc]

/-- Text on both sides that neither opens nor closes a placeholder stays where it is. -/
theorem expand_framed {front back : String} (opensNone : '%' ∉ front.toList) (closesNone : '}' ∉ back.toList)
    (text : String) (tier : Int) :
    (Template.ofText (front ++ text ++ back)).expand tier =
      changed (fun body => front ++ body ++ back) ((Template.ofText text).expand tier) := by
  have ending := expandParts_append tier (parse text.toList).tail back.toList (parse text.toList).parts
  have whole : Template.ofText (front ++ text ++ back) =
      front.toList.foldr Template.cons ⟨(parse text.toList).parts, (parse text.toList).tail ++ back.toList⟩ := by
    rw [Template.ofText, String.toList_append, String.toList_append, List.append_assoc, parse_front opensNone,
      parse_append closesNone]
  rw [whole, expand_front, expand, ending, changed_changed]
  simp only [Function.comp_def, String.ofList_toList, ← String.append_assoc]
  rfl

end TermStyle.Proofs.TemplateText
