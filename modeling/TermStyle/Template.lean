import TermStyle.Compile

/-!
Templates: text with placeholders, each a percent sign and directives in braces. A placeholder ends at the
first closing brace; one that never closes is text. Expanding goes over the template once. -/

namespace TermStyle
open Log

/-- Pairs of a literal text and the placeholder behind it, and the literal text at the end. -/
structure Template where
  parts : List (List Char × List Char)
  tail : List Char
  deriving DecidableEq, Repr

namespace Template

/-- Cuts at the first closing brace, which belongs to neither side. -/
def cut? : List Char → Option (List Char × List Char)
  | [] => none
  | c :: rest =>
    if c = '}' then some ([], rest)
    else (cut? rest).map fun (inside, after) => (c :: inside, after)

theorem cut?_length {text inside after : List Char} (found : cut? text = some (inside, after)) :
    after.length < text.length := by
  induction text generalizing inside after with
  | nil => simp [cut?] at found
  | cons c rest ih =>
    unfold cut? at found
    split at found
    · cases found; simp
    · obtain ⟨⟨inner, behind⟩, deeper, same⟩ := Option.map_eq_some_iff.mp found
      cases same
      exact Nat.lt_succ_of_lt (ih deeper)

def cons (c : Char) (template : Template) : Template :=
  match template.parts with
  | [] => ⟨[], c :: template.tail⟩
  | (literal, directives) :: more => ⟨(c :: literal, directives) :: more, template.tail⟩

def parse : List Char → Template
  | [] => ⟨[], []⟩
  | '%' :: '{' :: rest =>
    match _found : cut? rest with
    | some (directives, after) =>
      let behind := parse after
      ⟨([], directives) :: behind.parts, behind.tail⟩
    | none => ⟨[], '%' :: '{' :: rest⟩
  | c :: rest => (parse rest).cons c
termination_by text => text.length
decreasing_by
  · have := cut?_length _found
    simp only [List.length_cons]; omega
  · simp

def ofText (text : String) : Template := parse text.toList

def text (template : Template) : List Char :=
  template.parts.flatMap (fun (literal, directives) => literal ++ '%' :: '{' :: directives ++ ['}']) ++ template.tail

def expandParts (tier : Int) (tail : List Char) :
    List (List Char × List Char) → Noted (Except Numeral.Error String)
  | [] => ⟨.ok (.ofList tail), []⟩
  | (literal, directives) :: rest =>
    let here := Compile.text (.ofList directives) tier
    match here.value with
    | .error error => ⟨.error error, here.records⟩
    | .ok image =>
      let after := expandParts tier tail rest
      ⟨after.value.map (.ofList literal ++ image ++ ·), here.records ++ after.records⟩

def expand (template : Template) (tier : Int) : Noted (Except Numeral.Error String) :=
  expandParts tier template.tail template.parts

end Template
end TermStyle
