-- Host names that are numbers: up to four parts, each in decimal, octal or hexadecimal, where
-- the last part fills all bytes that are left.
import WarehouseJobs.Url.Percent

namespace WarehouseJobs.Url

open Text (hexValue?)

/-- The value of digits in a base. Nothing if one of them is no digit of it. -/
def valueIn? (base : Nat) (cs : List Char) : Option Nat :=
  cs.foldlM (fun value c =>
    match hexValue? c with
    | some d => if d < base then some (value * base + d) else none
    | none => none) 0

/-- The value of one part. A leading zero makes it octal, `0x` hexadecimal, and a lone
`0x` is zero. -/
def ipv4Part? : List Char → Option Nat
  | [] => none
  | '0' :: 'x' :: digits => valueIn? 16 digits
  | '0' :: 'X' :: digits => valueIn? 16 digits
  | '0' :: d :: digits => valueIn? 8 (d :: digits)
  | cs => valueIn? 10 cs

/-- The parts between the points, where one point may end the name. -/
def nameParts (cs : List Char) : List (List Char) :=
  let parts := Text.splitAll '.' cs
  match parts.reverse with
  | [] :: before :: rest => (before :: rest).reverse
  | _ => parts

/-- Whether a host name has to be a number: its last part is one, or has only digits. -/
def endsInNumber (cs : List Char) : Bool :=
  match (nameParts cs).getLast? with
  | some last =>
    (!last.isEmpty && last.all fun c => '0' ≤ c && c ≤ '9') || (ipv4Part? last).isSome
  | none => false

/-- The address of its parts: all but the last are one byte each. -/
def ipv4OfParts? (bytes : List Nat) (last : Nat) : Option Nat :=
  if bytes.length ≤ 3 ∧ (∀ b ∈ bytes, b ≤ 255) ∧ last < Nat.pow 256 (4 - bytes.length) then
    some ((bytes.foldl (fun value b => value * 256 + b) 0) * Nat.pow 256 (4 - bytes.length) + last)
  else none

def ipv4? (cs : List Char) : Option Nat :=
  match (nameParts cs).mapM ipv4Part? with
  | some numbers =>
    match numbers.reverse with
    | last :: before => ipv4OfParts? before.reverse last
    | [] => none
  | none => none

def ipv4Shown (address : Nat) : String :=
  s!"{address / 16777216 % 256}.{address / 65536 % 256}.{address / 256 % 256}.{address % 256}"

end WarehouseJobs.Url
