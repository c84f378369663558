-- Lengths of time in whole nanoseconds, and how they grow by a factor. A length has less
-- than 2^64 seconds.
import WarehouseJobs.Decimal.Nearest

namespace WarehouseJobs

/-- A length of time in nanoseconds. -/
abbrev Nanos := Nat

namespace Nanos

def perMilli : Nat := 1000000

def perSecond : Nat := 1000000000

def ofMillis (millis : UInt64) : Nanos := millis.toNat * perMilli

def toMillis (n : Nanos) : Nat := n / perMilli

/-- The seconds as a double: whole seconds and the rest are each rounded first. -/
def toSeconds (n : Nanos) : Float :=
  (n / perSecond).toUInt64.toFloat + (n % perSecond).toUInt64.toFloat / perSecond.toUInt64.toFloat

/-- The length of a number of seconds, to the nearest nanosecond. Nothing if it is negative,
no number, or too long. -/
def ofSeconds? (x : Float) : Option Nanos :=
  match Decimal.parts x with
  | .finite negative significand power _ =>
    if negative ∧ significand ≠ 0 then none
    else
      let (num, den) := Decimal.dividedByPower significand 1 (-power)
      if den * Nat.pow 2 64 ≤ num then none
      else some (Decimal.roundedQuotient (num * perSecond) den)
  | _ => none

/-- The length times a factor, but at most `longest`. A product that is no length counts as
too long. -/
def grown (n : Nanos) (factor : Float) (longest : Nanos) : Nanos :=
  match ofSeconds? (n.toSeconds * factor) with
  | some next => min next longest
  | none => longest

theorem grown_le (n : Nanos) (factor : Float) (longest : Nanos) :
    grown n factor longest ≤ longest := by
  unfold grown
  split
  · exact Nat.min_le_right ..
  · exact Nat.le_refl _

end Nanos
end WarehouseJobs
