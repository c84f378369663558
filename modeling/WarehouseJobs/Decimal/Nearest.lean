-- The double that is nearest to a decimal number, in exact arithmetic. Halfway between two
-- doubles, the one with the even significand is taken.
import WarehouseJobs.Decimal.Shortest
import WarehouseJobs.Text.Whole

namespace WarehouseJobs.Decimal

/-- The quotient rounded to a natural number, to the even one when it is halfway. -/
def roundedQuotient (num den : Nat) : Nat :=
  let q := num / den
  let twice := 2 * (num % den)
  if twice < den then q
  else if den < twice then q + 1
  else if q % 2 = 0 then q
  else q + 1

/-- `num / den` divided by a power of two, as a quotient of naturals. -/
def dividedByPower (num den : Nat) (power : Int) : Nat × Nat :=
  if power ≥ 0 then (num, den * Nat.pow 2 power.toNat) else (num * Nat.pow 2 (-power).toNat, den)

/-- The power of two of the last place of the double next to `num / den`. -/
def lastPlace (num den : Nat) : Int :=
  let guess : Int := (Nat.log2 num : Int) - Nat.log2 den - 52
  let (n, d) := dividedByPower num den guess
  let power := if n < d * Nat.pow 2 52 then guess - 1 else guess
  max power (-1074)

/-- The bits of a double without sign, from its significand and last place. A significand
that was rounded up to the next power of two moves on by itself. -/
def bitsOf (significand : Nat) (power : Int) : Nat :=
  (power + 1074).toNat * Nat.pow 2 52 + significand

def infiniteBits : Nat := 2047 * Nat.pow 2 52

/-- The double nearest to `digits * 10 ^ exponent`; infinite beyond the largest one. -/
def nearest (negative : Bool) (digits : Nat) (exponent : Int) : Float :=
  let bits :=
    if digits = 0 ∨ exponent + Nat.log2 digits < -400 then 0
    else if exponent > 400 then infiniteBits
    else
      let (num, den) := scaled digits exponent
      let power := lastPlace num den
      let (n, d) := dividedByPower num den power
      min infiniteBits (bitsOf (roundedQuotient n d) power)
  let magnitude := Float.ofBits (UInt64.ofNat bits)
  if negative then -magnitude else magnitude

/-! ## Reading -/

/-- The digits in front, with their count. -/
def leadingDigits (cs : List Char) : List Char × List Char := cs.span fun c => '0' ≤ c && c ≤ '9'

/-- The exponent at the end of a number; none is zero. -/
def exponentOf? : List Char → Option Int
  | [] => some 0
  | c :: cs =>
    if c = 'e' ∨ c = 'E' then
      match cs with
      | '-' :: rest => (Text.digits? rest).map fun n => -(n : Int)
      | '+' :: rest => (Text.digits? rest).map fun n => (n : Int)
      | rest => (Text.digits? rest).map fun n => (n : Int)
    else none

/-- A number without sign. Digits may be missing on one side of the point, not on both. -/
def unsigned? (negative : Bool) (cs : List Char) : Option Float :=
  let (whole, rest) := leadingDigits cs
  let (part, rest) := match rest with
    | '.' :: rest => leadingDigits rest
    | rest => ([], rest)
  match Text.digits? (whole ++ part), exponentOf? rest with
  | some n, some e => some (nearest negative n (e - part.length))
  | _, _ => none

/-- The double of a text, which may also name what is no number or beyond all of them. -/
def ofText? (s : String) : Option Float :=
  let (negative, cs) := match s.toList with
    | '-' :: rest => (true, rest)
    | '+' :: rest => (false, rest)
    | cs => (false, cs)
  let word := String.ofList (cs.map Char.toLower)
  if word = "nan" then some (0.0 / 0.0)
  else if word = "inf" ∨ word = "infinity" then
    some (if negative then -(1.0 / 0.0) else 1.0 / 0.0)
  else unsigned? negative cs

end WarehouseJobs.Decimal
