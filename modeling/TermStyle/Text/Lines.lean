/-!
Cutting text into lines, and filling lines with words. -/

namespace TermStyle.Text.Lines

/-- Characters that end a line; a line feed behind a carriage return belongs to it. -/
def isEnd (c : Char) : Bool :=
  let n := c.toNat
  (0x0a ≤ n && n ≤ 0x0d) || (0x1c ≤ n && n ≤ 0x1e) || n == 0x85 || n == 0x2028 || n == 0x2029

/-- The lines of a text, each with the characters that end it. -/
def cut : List Char → List (List Char)
  | [] => []
  | '\r' :: '\n' :: rest => ['\r', '\n'] :: cut rest
  | c :: rest =>
    if isEnd c then [c] :: cut rest
    else match cut rest with
      | [] => [[c]]
      | line :: lines => (c :: line) :: lines

def indented (indent : Nat) (text : String) : String :=
  .ofList ((cut text.toList).flatMap fun line => List.replicate indent ' ' ++ line)

/-- Goes on with a line that has its own room; the lines behind it have the given width. -/
def fillAfter (room width : Int) (line : String) : List String → List String
  | [] => [line]
  | word :: rest =>
    if line.length + 1 + word.length ≤ room then fillAfter room width (line ++ " " ++ word) rest
    else line :: fillAfter width width word rest

/-- Fills lines with as many words as go into the width. A word that is too long has a line of its own. -/
def fill (width : Int) : List String → List String
  | [] => []
  | word :: rest => fillAfter width width word rest

end TermStyle.Text.Lines
