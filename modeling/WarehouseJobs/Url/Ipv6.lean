-- Internet addresses of eight pieces, as they stand between square brackets.
import WarehouseJobs.Url.Ipv4

namespace WarehouseJobs.Url

/-- One piece: up to four hexadecimal digits. -/
def ipv6Piece? (cs : List Char) : Option Nat :=
  if 0 < cs.length ∧ cs.length ≤ 4 then valueIn? 16 cs else none

/-- One number of the dotted form: no more digits than it needs. -/
def ipv6Byte? : List Char → Option Nat
  | [] => none
  | ['0'] => some 0
  | '0' :: _ => none
  | cs => (valueIn? 10 cs).filter (· ≤ 255)

/-- The last two pieces in dotted form. -/
def ipv6Dotted? (cs : List Char) : Option (List Nat) :=
  match (Text.splitAll '.' cs).mapM ipv6Byte? with
  | some [a, b, c, d] => some [a * 256 + b, c * 256 + d]
  | _ => none

/-- The pieces of the last field, which may be dotted. -/
def ipv6LastField? (cs : List Char) : Option (List Nat) :=
  if cs.contains '.' then ipv6Dotted? cs else (ipv6Piece? cs).map fun p => [p]

/-- The pieces of fields, where only the last may be dotted. -/
def ipv6Fields? : List (List Char) → Option (List Nat)
  | [] => some []
  | [last] => ipv6LastField? last
  | field :: rest =>
    match ipv6Piece? field, ipv6Fields? rest with
    | some p, some ps => some (p :: ps)
    | _, _ => none

/-- The pieces of one side of the gap; an empty side has none. -/
def ipv6Side? (cs : List Char) : Option (List Nat) :=
  if cs.isEmpty then some [] else ipv6Fields? (Text.splitAll ':' cs)

/-- The pieces in front of the gap, none of them dotted. -/
def ipv6Front? (cs : List Char) : Option (List Nat) :=
  if cs.isEmpty then some [] else (Text.splitAll ':' cs).mapM ipv6Piece?

/-- The eight pieces. Two colons stand for one or more pieces of zero, at most once. -/
def ipv6? (cs : List Char) : Option (List Nat) :=
  match Text.splitAtText [':', ':'] cs with
  | some (front, back) =>
    match ipv6Front? front, ipv6Side? back with
    | some before, some after =>
      let given := before.length + after.length
      if given ≤ 7 then some (before ++ List.replicate (8 - given) 0 ++ after) else none
    | _, _ => none
  | none => (ipv6Fields? (Text.splitAll ':' cs)).filter fun ps => ps.length = 8

/-! ## Writing -/

/-- How many zeros a list starts with. -/
def zerosAtStart : List Nat → Nat
  | 0 :: ps => zerosAtStart ps + 1
  | _ => 0

/-- Where the first of the longest runs of zeros starts, and how long it is. -/
def longestZeros : Nat → List Nat → Nat × Nat
  | _, [] => (0, 0)
  | place, p :: ps =>
    let here := zerosAtStart (p :: ps)
    let later := longestZeros (place + 1) ps
    if later.2 ≤ here then (place, here) else later

def ipv6Pieces (ps : List Nat) : String :=
  ":".intercalate (ps.map fun p => String.ofList (Nat.toDigits 16 p))

/-- Zeros in a row are left out once, where most of them stand. -/
def ipv6Shown (pieces : List Nat) : String :=
  let (start, length) := longestZeros 0 pieces
  if length < 2 then "[" ++ ipv6Pieces pieces ++ "]"
  else
    "[" ++ ipv6Pieces (pieces.take start) ++ "::" ++ ipv6Pieces (pieces.drop (start + length)) ++ "]"

end WarehouseJobs.Url
