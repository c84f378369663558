-- Names in any script, written with ASCII letters, digits and hyphens only. The ASCII
-- characters come first; the others follow as places and code points, in rising order of
-- the code points, each as a number of variable length.
import WarehouseJobs.Text.Split

namespace WarehouseJobs.Url.Punycode

/-- A digit from 0 to 35: the letters, then the ten digits. -/
def digit (d : Nat) : Char :=
  if d < 26 then Char.ofNat ('a'.toNat + d) else Char.ofNat ('0'.toNat + (d - 26))

def digitValue? (c : Char) : Option Nat :=
  if 'a' ≤ c ∧ c ≤ 'z' then some (c.toNat - 'a'.toNat)
  else if 'A' ≤ c ∧ c ≤ 'Z' then some (c.toNat - 'A'.toNat)
  else if '0' ≤ c ∧ c ≤ '9' then some (c.toNat - '0'.toNat + 26)
  else none

/-- The least value of the digit at place `k` that has a digit behind it. -/
def threshold (k bias : Nat) : Nat := max 1 (min 26 (k - bias))

theorem threshold_pos (k bias : Nat) : 1 ≤ threshold k bias := Nat.le_max_left ..

def spread (delta k : Nat) : Nat :=
  if 455 < delta then spread (delta / 35) (k + 36) else k + 36 * delta / (delta + 38)
termination_by delta
decreasing_by exact Nat.div_lt_self (by omega) (by omega)

/-- The bias after a number, from the number and how many characters are placed. -/
def adapt (delta count : Nat) (first : Bool) : Nat :=
  let halved := if first then delta / 700 else delta / 2
  spread (halved + halved / count) 0

/-- The digits of a number. -/
def digits (bias k q : Nat) : List Char :=
  let t := threshold k bias
  if q < t then [digit q]
  else digit (t + (q - t) % (36 - t)) :: digits bias (k + 36) ((q - t) / (36 - t))
termination_by q
decreasing_by
  have := threshold_pos k bias
  have := Nat.div_le_self (q - threshold k bias) (36 - threshold k bias)
  omega

/-! ## Writing -/

/-- Where the writer stands: what is written, the number to write next, the bias, and how
many characters are placed. -/
structure Writing where
  written : List Char
  delta : Nat
  bias : Nat
  count : Nat

/-- Passes one character while those of code point `n` are placed. -/
def pass (plain n : Nat) (w : Writing) (c : Char) : Writing :=
  if c.toNat < n then { w with delta := w.delta + 1 }
  else if c.toNat = n then
    { written := w.written ++ digits w.bias 36 w.delta
      delta := 0
      bias := adapt w.delta (w.count + 1) (w.count = plain)
      count := w.count + 1 }
  else w

/-- Places the characters of each code point in turn; `n` is the least one not placed. -/
def place (cs : List Char) (plain : Nat) : List Nat → Nat → Writing → Writing
  | [], _, w => w
  | code :: codes, n, w =>
    let ready := { w with delta := w.delta + (code - n) * (w.count + 1) }
    let after := cs.foldl (pass plain code) ready
    place cs plain codes (code + 1) { after with delta := after.delta + 1 }

def insertOnce (n : Nat) : List Nat → List Nat
  | [] => [n]
  | m :: ms => if n < m then n :: m :: ms else if n = m then m :: ms else m :: insertOnce n ms

def encode (cs : List Char) : List Char :=
  let plain := cs.filter fun c => c.toNat < 128
  let codes := (cs.filter fun c => 128 ≤ c.toNat).foldl (fun ns c => insertOnce c.toNat ns) []
  let start := if plain.isEmpty then [] else plain ++ ['-']
  (place cs plain.length codes 128 ⟨start, 0, 72, plain.length⟩).written

/-! ## Reading -/

/-- Reads one number; also how many digits are left behind it. -/
def number? (bias : Nat) : List Char → (k weight value : Nat) → Option (Nat × List Char)
  | [], _, _, _ => none
  | c :: cs, k, weight, value =>
    match digitValue? c with
    | none => none
    | some d =>
      let t := threshold k bias
      let value := value + d * weight
      if value ≥ Nat.pow 2 31 then none
      else if d < t then some (value, cs)
      else number? bias cs (k + 36) (weight * (36 - t)) value

/-- Puts the other characters to their places; every number uses up at least one digit, so
`fuel` may be the number of digits. -/
def insertAll? : Nat → List Char → (n i bias : Nat) → (first : Bool) → List Char →
    Option (List Char)
  | _, [], _, _, _, _, out => some out
  | 0, _ :: _, _, _, _, _, _ => none
  | fuel + 1, cs, n, i, bias, first, out =>
    match number? bias cs 36 1 0 with
    | none => none
    | some (step, rest) =>
      let count := out.length + 1
      let place := i + step
      let code := n + place / count
      if code.isValidChar then
        insertAll? fuel rest code (place % count + 1) (adapt step count first) false
          (out.take (place % count) ++ Char.ofNat code :: out.drop (place % count))
      else none

def decode? (cs : List Char) : Option (List Char) :=
  let (plain, rest) := match Text.splitLast '-' cs with
    | some (before, after) => (before, after)
    | none => ([], cs)
  insertAll? rest.length rest 128 0 72 true plain

end WarehouseJobs.Url.Punycode
