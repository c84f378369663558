-- The shortest decimal that reads back as a given double, and the two ways it is written
-- out: without an exponent in messages, and with one far from zero in JSON. All in exact
-- arithmetic on the sign, the significand and the power of two of the double.

namespace WarehouseJobs.Decimal

/-! ## The parts of a double -/

/-- A double taken apart: a finite one is its significand times a power of two. -/
inductive Parts where
  | nan
  | infinite (negative : Bool)
  | finite (negative : Bool) (significand : Nat) (power : Int) (gapHalves : Bool)
deriving DecidableEq, Repr

/-- `gapHalves` says that the next smaller double is only half as far away as the next
larger one, which is so at a power of two. -/
def parts (x : Float) : Parts :=
  let bits : Nat := x.toBits.toNat
  let negative := bits / Nat.pow 2 63 % 2 == 1
  let exponent : Nat := bits / Nat.pow 2 52 % Nat.pow 2 11
  let fraction : Nat := bits % Nat.pow 2 52
  if exponent == Nat.pow 2 11 - 1 then
    if fraction == 0 then .infinite negative else .nan
  else if exponent == 0 then .finite negative fraction (-1074) false
  else
    .finite negative (fraction + Nat.pow 2 52) ((exponent : Int) - 1075)
      (fraction == 0 && exponent > 1)

/-! ## The digits -/

/-- `n * 10 ^ e` as a quotient of naturals. -/
def scaled (n : Nat) (e : Int) : Nat × Nat :=
  if e ≥ 0 then (n * Nat.pow 10 e.toNat, 1) else (n, Nat.pow 10 (-e).toNat)

/-- The power of ten of the first digit of `num / den`, counted down from `fuel`. -/
def leadingPower (num den : Nat) : Nat → Int → Int
  | 0, e => e
  | fuel + 1, e =>
    let (n, d) := scaled 1 e
    if n * den ≤ num * d then e else leadingPower num den fuel (e - 1)

/-- An interval of reals, given by naturals over one denominator. -/
structure Around where
  value : Nat
  low : Nat
  high : Nat
  denominator : Nat
  closed : Bool

/-- Whether the decimal `n * 10 ^ e` reads back as the double in the middle. -/
def Around.holds (a : Around) (n : Nat) (e : Int) : Bool :=
  let (num, den) := scaled n e
  let x := num * a.denominator
  if a.closed then a.low * den ≤ x && x ≤ a.high * den
  else a.low * den < x && x < a.high * den

/-- The distance of `n * 10 ^ e` from the middle, over a common denominator. -/
def Around.distance (a : Around) (n : Nat) (e : Int) : Nat :=
  let (num, den) := scaled n e
  let x := num * a.denominator
  let v := a.value * den
  if x ≤ v then v - x else x - v

/-- The nearest of the two neighbours on the grid `10 ^ e` that reads back, if one does. -/
def Around.onGrid (a : Around) (e : Int) : Option Nat :=
  let below :=
    if e ≥ 0 then a.value / (a.denominator * Nat.pow 10 e.toNat)
    else a.value * Nat.pow 10 (-e).toNat / a.denominator
  let above := below + 1
  match a.holds below e, a.holds above e with
  | true, true =>
    if a.distance below e < a.distance above e then some below
    else if a.distance above e < a.distance below e then some above
    else if below % 2 = 0 then some below else some above
  | true, false => some below
  | false, true => some above
  | false, false => none

/-- Tries grids from coarse to fine, so the first hit has the fewest digits. -/
def Around.search (a : Around) : Nat → Int → Nat × Int
  | 0, e => (a.value / a.denominator, e)
  | fuel + 1, e =>
    match a.onGrid e with
    | some n => (n, e)
    | none => a.search fuel (e - 1)

/-- Removes the zeros at the end of a number. -/
def dropZeros : Nat → Nat → Int → Nat × Int
  | 0, n, e => (n, e)
  | fuel + 1, n, e =>
    if n ≠ 0 ∧ n % 10 = 0 then dropZeros fuel (n / 10) (e + 1) else (n, e)

/-- The fewest digits, and their power of ten, that read back as the double
`significand * 2 ^ power`. -/
def shortest (significand : Nat) (power : Int) (gapHalves : Bool) : Nat × Int :=
  if significand = 0 then (0, 0)
  else
    let two := fun (n : Nat) =>
      if power - 2 ≥ 0 then (n * Nat.pow 2 (power - 2).toNat, 1)
      else (n, Nat.pow 2 (2 - power).toNat)
    let (value, denominator) := two (4 * significand)
    let around : Around :=
      { value, denominator
        low := (two (4 * significand - if gapHalves then 1 else 2)).1
        high := (two (4 * significand + 2)).1
        closed := significand % 2 == 0 }
    let first := leadingPower value denominator 650 309
    let (n, e) := around.search 20 first
    dropZeros 20 n e

/-! ## Writing -/

def signed (negative : Bool) (s : String) : String := if negative then "-" ++ s else s

def zeros (n : Nat) : String := String.ofList (List.replicate n '0')

/-- Digits with a point after the first `before` of them; zeros fill up. -/
def withPoint (digits : String) (before : Int) : String :=
  if before ≤ 0 then "0." ++ zeros (-before).toNat ++ digits
  else
    let cs := digits.toList
    String.ofList (cs.take before.toNat) ++ "." ++ String.ofList (cs.drop before.toNat)

/-- Never an exponent, and no point in a whole number. -/
def positional (x : Float) : String :=
  match parts x with
  | .nan => "NaN"
  | .infinite negative => signed negative "inf"
  | .finite negative significand power gapHalves =>
    let (n, e) := shortest significand power gapHalves
    let digits := toString n
    signed negative
      (if e ≥ 0 then digits ++ zeros e.toNat else withPoint digits (digits.length + e))

/-- Sign, digits and power of ten of a finite double; nothing for the others. -/
def ofFloat? (x : Float) : Option (Bool × Nat × Int) :=
  match parts x with
  | .finite negative significand power gapHalves =>
    let (n, e) := shortest significand power gapHalves
    some (negative, n, e)
  | _ => none

/-- Digits with a point after the first one, and the power of ten of that one. -/
def scientific (digits : String) (power : Int) : String :=
  let tail := String.ofList (digits.toList.drop 1)
  let tail := if tail.isEmpty then "" else "." ++ tail
  String.ofList (digits.toList.take 1) ++ tail ++ "e" ++ toString power

/-- An exponent for numbers of more than sixteen places or under a ten-thousandth, and
otherwise always a point. -/
def exponential (negative : Bool) (n : Nat) (e : Int) : String :=
  let digits := toString n
  let length : Int := digits.length
  let first := length + e
  signed negative <|
    if n = 0 then "0.0"
    else if 0 ≤ e ∧ first ≤ 16 then digits ++ zeros e.toNat ++ ".0"
    else if -5 < first ∧ first ≤ 16 then withPoint digits first
    else scientific digits (first - 1)

/-- For who inspects a program. Unlike in JSON, a hundred-thousandth has an exponent. -/
def inspected (x : Float) : String :=
  match ofFloat? x with
  | none => positional x
  | some (negative, n, e) =>
    let digits := toString n
    let length : Int := digits.length
    let first := length + e
    if n ≠ 0 ∧ first = -4 then signed negative (scientific digits (first - 1))
    else exponential negative n e

end WarehouseJobs.Decimal
