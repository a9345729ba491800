/-!
Blank characters and the two things done with them: stripping both ends of a text, and cutting a
text into the runs between separators. Words are the runs between blanks. -/

namespace TermStyle.Text.Blank

/-- White space of every script, together with the four separator controls and the next-line
control. The zero-width space and the byte order mark are not blank. -/
def isBlank (c : Char) : Bool :=
  let n := c.toNat
  (9 ≤ n && n ≤ 13) || (28 ≤ n && n ≤ 32) || n == 0x85 || n == 0xa0 || n == 0x1680 ||
    (0x2000 ≤ n && n ≤ 0x200a) || n == 0x2028 || n == 0x2029 || n == 0x202f || n == 0x205f || n == 0x3000

/-- The blanks of the basic Latin block, without the separator controls. -/
def isAsciiBlank (c : Char) : Bool := c == ' ' || (9 ≤ c.toNat && c.toNat ≤ 13)

def stripBy (skip : Char → Bool) (text : List Char) : List Char :=
  ((text.dropWhile skip).reverse.dropWhile skip).reverse

def strip (text : String) : String := .ofList (stripBy isBlank text.toList)

/-- Whether no run goes on at the head of a text. -/
def pauses (separator : Char → Bool) : List Char → Bool
  | [] => true
  | c :: _ => separator c

/-- The maximal runs of characters that are no separators, in order; none is empty. -/
def fields (separator : Char → Bool) : List Char → List (List Char)
  | [] => []
  | c :: rest =>
    if separator c then fields separator rest
    else if pauses separator rest then [c] :: fields separator rest
    else match fields separator rest with
      | [] => [[c]]
      | run :: runs => (c :: run) :: runs

theorem fields_run {separator : Char → Bool} {text : List Char} (filled : text ≠ [])
    (unbroken : ∀ c ∈ text, separator c = false) : fields separator text = [text] := by
  induction text with
  | nil => exact absurd rfl filled
  | cons c rest ih =>
    have first := unbroken c (by simp)
    cases rest with
    | nil => simp [fields, first, pauses]
    | cons d more =>
      have second := unbroken d (by simp)
      have deeper := ih (by simp) fun e member => unbroken e (by simp [member])
      rw [fields, deeper]
      simp [first, pauses, second]

def words (text : String) : List String := (fields isBlank text.toList).map .ofList

end TermStyle.Text.Blank
