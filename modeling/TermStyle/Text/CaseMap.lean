import TermStyle.Text.CaseTable

/-!
Capital and small letters of every script. Some letters change into several, and a capital sigma
takes its final form at the end of a word; everything else goes character by character. -/

namespace TermStyle.Text.CaseMap
open CaseTable

def inRanges (ranges : List (Nat × Nat)) (c : Char) : Bool :=
  ranges.any fun range => range.1 ≤ c.toNat && c.toNat ≤ range.2

def isIgnorable (c : Char) : Bool := inRanges ignorable c
def isCased (c : Char) : Bool := inRanges cased c

def shift (runs : List (Nat × Nat × Nat × Int)) (c : Char) : Char :=
  match runs.find? fun (first, last, step, _) => first ≤ c.toNat && c.toNat ≤ last && (c.toNat - first) % step == 0 with
  | some (_, _, _, distance) => .ofNat (c.toNat + distance).toNat
  | none => c

def mapped (runs : List (Nat × Nat × Nat × Int)) (long : List (Nat × List Nat)) (c : Char) : List Char :=
  match long.lookup c.toNat with
  | some codes => codes.map .ofNat
  | none => [shift runs c]

def capital (c : Char) : List Char :=
  if c.toNat < 0x80 then [if 'a' ≤ c && c ≤ 'z' then .ofNat (c.toNat - 32) else c]
  else mapped capitals longCapitals c

def small (c : Char) : List Char :=
  if c.toNat < 0x80 then [if 'A' ≤ c && c ≤ 'Z' then .ofNat (c.toNat + 32) else c]
  else mapped smalls longSmalls c

def upper (text : String) : String := .ofList (text.toList.flatMap capital)

def capitalSigma : Char := .ofNat 0x3a3

/-- Whether the nearest character that is not passed over is a letter with case. -/
def meetsLetter (text : List Char) : Bool := (text.dropWhile isIgnorable).head?.any isCased

/-- `before` is what stands in front, nearest first. -/
def lowered (before : List Char) : List Char → List Char
  | [] => []
  | c :: rest =>
    let image :=
      if c == capitalSigma then [Char.ofNat (if meetsLetter before && !meetsLetter rest then 0x3c2 else 0x3c3)]
      else small c
    image ++ lowered (c :: before) rest

def lower (text : String) : String := .ofList (lowered [] text.toList)

end TermStyle.Text.CaseMap
