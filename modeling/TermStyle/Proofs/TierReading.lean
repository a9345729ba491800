import TermStyle.Proofs.ExceptSteps
import TermStyle.Tier

/-! Which values read as a tier: whole numbers, and texts that hold one. Any whole number is brought into the range. -/

namespace TermStyle.Proofs.TierReading
open Text ExceptSteps

/-- The whole number in a value. A truth value is none. -/
def integer? : Value → Option Int
  | .int number => some number
  | .text text => (Numeral.read (Blank.strip text)).toOption
  | _ => none

def clamped (number : Int) : Int := min 3 (max 0 number)

theorem clamp_level (number : Int) : (Tier.clamp number).level = clamped number := by
  unfold Tier.clamp clamped
  repeat' split
  all_goals
    simp only [Tier.level]
    omega

theorem clamp_inRange {number : Int} (least : 0 ≤ number) (greatest : number ≤ 3) :
    (Tier.clamp number).level = number := by
  rw [clamp_level, clamped]
  omega

theorem coerce_level (tier : Tier) : Tier.coerce (.int tier.level) = .ok tier := by
  cases tier <;> rfl

/-- What is said of a value that is no tier: that it is none, or what is wrong with its numeral. -/
inductive Refusal (value : Value) : Fault → Prop
  | notTier : Refusal value (.notTier value)
  | numeral (error : Numeral.Error) : Refusal value (.numeral error)

theorem coerce_integer {value : Value} {number : Int} (read : integer? value = some number) :
    Tier.coerce value = .ok (Tier.clamp number) := by
  unfold integer? at read
  split at read
  · cases read
    rfl
  next text =>
    cases found : Numeral.read (Blank.strip text) with
    | error error =>
      rw [found] at read
      cases read
    | ok number =>
      rw [found] at read
      cases read
      simp [Tier.coerce, found, Except.map]
  · cases read

theorem coerce_refused {value : Value} (unread : integer? value = none) :
    ∃ fault, Tier.coerce value = .error fault ∧ Refusal value fault := by
  cases value with
  | int number => cases unread
  | text text =>
    cases found : Numeral.read (Blank.strip text) with
    | error error =>
      exact ⟨.numeral error, by simp [Tier.coerce, found, Except.map], .numeral error⟩
    | ok number =>
      rw [integer?, found] at unread
      cases unread
  | _ => exact ⟨_, rfl, .notTier⟩

end TermStyle.Proofs.TierReading
