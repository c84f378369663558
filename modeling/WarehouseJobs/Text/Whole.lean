-- Whole numbers written in digits, mostly decimal, as they stand in settings and in wire texts.
-- Only the ten ASCII digits count, a sign may stand in front, and a number that does not
-- fit its range is no number.

namespace WarehouseJobs.Text

def digitValue? (c : Char) : Option Nat :=
  if '0' ≤ c ∧ c ≤ '9' then some (c.toNat - '0'.toNat) else none

/-- The value of a hexadecimal digit, in upper or lower case. -/
def hexValue? (c : Char) : Option Nat :=
  if '0' ≤ c ∧ c ≤ '9' then some (c.toNat - '0'.toNat)
  else if 'a' ≤ c ∧ c ≤ 'f' then some (c.toNat - 'a'.toNat + 10)
  else if 'A' ≤ c ∧ c ≤ 'F' then some (c.toNat - 'A'.toNat + 10)
  else none

/-- The value of a text of digits, most significant first, behind a value read already. -/
def digitsOnto (value : Nat) : List Char → Option Nat
  | [] => some value
  | c :: cs =>
    match digitValue? c with
    | some d => digitsOnto (value * 10 + d) cs
    | none => none

/-- The value of one or more digits. -/
def digits? : List Char → Option Nat
  | [] => none
  | cs => digitsOnto 0 cs

/-- A number from 0 to `limit`; one plus sign may stand in front. -/
def natUpTo? (limit : Nat) (s : String) : Option Nat :=
  let cs := match s.toList with
    | '+' :: rest => rest
    | cs => cs
  (digits? cs).filter (· ≤ limit)

def largest16 : Nat := Nat.pow 2 16 - 1
def largest32 : Nat := Nat.pow 2 32 - 1
def largest64 : Nat := Nat.pow 2 64 - 1

def uint32? (s : String) : Option UInt32 := (natUpTo? largest32 s).map UInt32.ofNat

def uint64? (s : String) : Option UInt64 := (natUpTo? largest64 s).map UInt64.ofNat

/-- A signed number of 64 bits; one sign may stand in front. -/
def signed64? (s : String) : Option Int :=
  let value := match s.toList with
    | '-' :: rest => (digits? rest).map fun n => -(n : Int)
    | '+' :: rest => (digits? rest).map fun n => (n : Int)
    | cs => (digits? cs).map fun n => (n : Int)
  value.filter fun i => decide (-(Nat.pow 2 63 : Int) ≤ i ∧ i < Nat.pow 2 63)

/-- The digits of a number in a base up to sixteen, in lower case. -/
def toDigits (base n : Nat) : List Char := Nat.toDigits base n

/-- The digits of a number, with zeros in front up to `width`. -/
def padded (width n : Nat) : String :=
  let digits := (toString n).toList
  String.ofList (List.replicate (width - digits.length) '0' ++ digits)

end WarehouseJobs.Text
