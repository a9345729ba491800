/-!
Surrogates in texts. A text of Unicode characters has none; one that is read from numbered escapes may.
It is kept as two characters: a mark, which is no character of any script, and a private one that tells
which surrogate is meant. -/

namespace TermStyle.Text.Surrogate

def first : Nat := 0xd800
def last : Nat := 0xdfff

def isCode (code : Nat) : Bool := first ≤ code && code ≤ last

def mark : Char := .ofNat 0x10ffff

/-- How far the private characters are from the surrogates that they stand for. -/
def distance : Nat := 0x100000

def encode (code : Nat) : List Char := [mark, .ofNat (distance + code)]

def decode? (a b : Char) : Option Nat :=
  if a == mark && isCode (b.toNat - distance) then some (b.toNat - distance) else none

end TermStyle.Text.Surrogate
