import TermStyle.Fault

/-!
Support tiers: how rich a palette a terminal accepts. Every tier includes the lower ones, so any whole
number can be clamped to one. -/

namespace TermStyle
open Text

inductive Tier
  | none
  | basic
  | extended
  | truecolor
  deriving DecidableEq, Repr

namespace Tier

def level : Tier → Int
  | .none => 0
  | .basic => 1
  | .extended => 2
  | .truecolor => 3

def name : Tier → String
  | .none => "NONE"
  | .basic => "BASIC"
  | .extended => "EXTENDED"
  | .truecolor => "TRUECOLOR"

def label : Tier → String
  | .none => "none"
  | .basic => "basic"
  | .extended => "extended"
  | .truecolor => "truecolor"

def clamp (level : Int) : Tier :=
  if level ≤ 0 then .none else if level = 1 then .basic else if level = 2 then .extended else .truecolor

def ofLevel (level : Int) : Except Fault Tier :=
  if level < 0 ∨ 3 < level then .error (.tierRange level) else .ok (clamp level)

def coerce : Value → Except Fault Tier
  | .int level => .ok (clamp level)
  | .text text => ((Numeral.read (Blank.strip text)).mapError .numeral).map clamp
  | value => .error (.notTier value)

def max (a b : Tier) : Tier := if a.level < b.level then b else a

end Tier
end TermStyle
