-- Reading a JSON text. White space is the four characters of the format, numbers have no
-- leading zeros, control characters in a text must be escaped, and nothing but white space
-- may follow the value.
import WarehouseJobs.Json.Value
import WarehouseJobs.Text.Whole

namespace WarehouseJobs.Json

open Text (digitValue? hexValue? largest64)

def isSpace (c : Char) : Bool := c == ' ' || c == '\n' || c == '\t' || c == '\r'

def skipSpace (cs : List Char) : List Char := cs.dropWhile isSpace

/-! ## Numbers -/

/-- The digits in front, as a value behind `value`, with their count. -/
def takeDigits (value count : Nat) : List Char → Nat × Nat × List Char
  | [] => (value, count, [])
  | c :: cs =>
    match digitValue? c with
    | some d => takeDigits (value * 10 + d) (count + 1) cs
    | none => (value, count, c :: cs)

/-- The largest significand that is kept in full. -/
def significandLimit : Nat := largest64

/-- Drops last digits until the number fits 64 bits, counting them in the exponent. -/
def shorten : Nat → Nat → Int → Nat × Int
  | 0, digits, exponent => (digits, exponent)
  | fuel + 1, digits, exponent =>
    if digits ≤ significandLimit then (digits, exponent)
    else shorten fuel (digits / 10) (exponent + 1)

/-- The exponents with a power of ten among the doubles. -/
def largestPower : Nat := 308

/-- The double of a significand scaled by a power of ten: one multiplication or division by
a power of ten, or several where the power is smaller than any double. Nothing if the value
is beyond the largest double. -/
def scale (significand : Float) : Nat → Int → Option Float
  | 0, _ => some significand
  | fuel + 1, exponent =>
    if exponent.natAbs ≤ largestPower then
      let power := Float.ofScientific 1 false exponent.natAbs
      if exponent ≥ 0 then
        let value := significand * power
        if value.isInf then none else some value
      else some (significand / power)
    else if significand == 0 then some significand
    else if exponent ≥ 0 then none
    else scale (significand / Float.ofScientific 1 false largestPower) fuel (exponent + largestPower)

/-- The double a number stands for. -/
def Number.toFloat? : Number → Option Float
  | .whole i => some (if i < 0 then -(Float.ofNat i.natAbs) else Float.ofNat i.natAbs)
  | .real negative digits exponent =>
    let (significand, power) := shorten (toString digits).length digits exponent
    let value := scale (Float.ofNat significand) 5 power
    value.map fun v => if negative then -v else v
  | .double x => some x

/-- A double. Whole numbers are doubles too. -/
def float? : Json → Option Float
  | .number n => n.toFloat?
  | _ => none

/-- The exponents that are read; beyond them a text counts as this far away from one. -/
def exponentLimit : Nat := 100000

def ofNumber (n : Number) : Json := if n.toFloat?.isSome then .number n else .unreadable

/-- The exponent behind a significand, if there is one. -/
def readExponent (negative : Bool) (digits : Nat) (shift : Nat) (isReal : Bool) :
    List Char → Option (Json × List Char)
  | c :: cs =>
    if c = 'e' ∨ c = 'E' then
      let (down, cs) := match cs with
        | '-' :: rest => (true, rest)
        | '+' :: rest => (false, rest)
        | cs => (false, cs)
      let (value, count, rest) := takeDigits 0 0 cs
      if count = 0 then none
      else
        let power : Int := Nat.min value exponentLimit
        let power := if down then -power else power
        some (ofNumber (.real negative digits (power - shift)), rest)
    else finish (c :: cs)
  | [] => finish []
where
  finish (rest : List Char) : Option (Json × List Char) :=
    if isReal then some (ofNumber (.real negative digits (-(shift : Int))), rest)
    else
      let value : Int := if negative then -(digits : Int) else digits
      let fits := if negative then digits ≠ 0 ∧ digits ≤ Nat.pow 2 63 else digits ≤ largest64
      if fits then some (.number (.whole value), rest)
      else some (ofNumber (.real negative digits 0), rest)

/-- A number without its sign. -/
def readUnsigned (negative : Bool) (cs : List Char) : Option (Json × List Char) :=
  let (digits, count, rest) := takeDigits 0 0 cs
  let leadingZero := cs.head? == some '0' && count > 1
  if count = 0 ∨ leadingZero then none
  else
    match rest with
    | '.' :: rest =>
      let (digits, places, rest) := takeDigits digits 0 rest
      if places = 0 then none else readExponent negative digits places true rest
    | rest => readExponent negative digits 0 false rest

/-! ## Texts -/

/-- Four hexadecimal digits. -/
def readUnit : List Char → Option (Nat × List Char)
  | a :: b :: c :: d :: rest => do
    let a ← hexValue? a
    let b ← hexValue? b
    let c ← hexValue? c
    let d ← hexValue? d
    some (((a * 16 + b) * 16 + c) * 16 + d, rest)
  | _ => none

/-- What a text says: its characters, or that half a surrogate pair stands in it. -/
inductive Spelled where
  | chars (reversed : List Char)
  | broken

def Spelled.push (c : Char) : Spelled → Spelled
  | .chars cs => .chars (c :: cs)
  | .broken => .broken

/-- The character of an escaped unit, which may take a second unit with it. -/
def readEscapedUnit (unit : Nat) (rest : List Char) : Option Char × List Char :=
  if 0xD800 ≤ unit ∧ unit < 0xDC00 then
    match rest with
    | '\\' :: 'u' :: later =>
      match readUnit later with
      | some (low, rest) =>
        if 0xDC00 ≤ low ∧ low < 0xE000 then
          (some (Char.ofNat (0x10000 + (unit - 0xD800) * 0x400 + (low - 0xDC00))), rest)
        else (none, rest)
      | none => (none, rest)
    | rest => (none, rest)
  else if 0xDC00 ≤ unit ∧ unit < 0xE000 then (none, rest)
  else (some (Char.ofNat unit), rest)

/-- Reads a text up to its closing quote. -/
def readText : Nat → Spelled → List Char → Option (Spelled × List Char)
  | 0, _, _ => none
  | _, _, [] => none
  | fuel + 1, said, c :: rest =>
    if c = '\"' then some (said, rest)
    else if c = '\\' then
      match rest with
      | [] => none
      | e :: rest =>
        let plain := fun (c : Char) => readText fuel (said.push c) rest
        match e with
        | '\"' => plain '\"'
        | '\\' => plain '\\'
        | '/' => plain '/'
        | 'b' => plain '\x08'
        | 'f' => plain '\x0c'
        | 'n' => plain '\n'
        | 'r' => plain '\r'
        | 't' => plain '\t'
        | 'u' =>
          match readUnit rest with
          | none => none
          | some (unit, rest) =>
            match readEscapedUnit unit rest with
            | (some c, rest) => readText fuel (said.push c) rest
            | (none, rest) => readText fuel .broken rest
        | _ => none
    else if c.toNat < 0x20 then none
    else readText fuel (said.push c) rest

/-! ## Values -/

/-- The rest behind `word`, if the text goes on with it. -/
def readWord (word : List Char) (value : Json) (cs : List Char) : Option (Json × List Char) :=
  if word.isPrefixOf cs then some (value, cs.drop word.length) else none

mutual

/-- Reads one value. `fuel` bounds the number of steps; every step takes a character or goes
one level down, so twice the length of the text is enough. -/
def readValue : Nat → List Char → Option (Json × List Char)
  | 0, _ => none
  | fuel + 1, cs =>
    match skipSpace cs with
    | [] => none
    | c :: rest =>
      if c = '\x7b' then
        match skipSpace rest with
        | '\x7d' :: rest => some (.record [], rest)
        | rest => readFields fuel [] true rest
      else if c = '[' then
        match skipSpace rest with
        | ']' :: rest => some (.list [], rest)
        | rest => readItems fuel [] rest
      else if c = '\"' then
        match readText (rest.length + 1) (.chars []) rest with
        | some (.chars said, rest) => some (.text (String.ofList said.reverse), rest)
        | some (.broken, rest) => some (.unreadable, rest)
        | none => none
      else if c = 't' then readWord ['r', 'u', 'e'] (.bool true) rest
      else if c = 'f' then readWord ['a', 'l', 's', 'e'] (.bool false) rest
      else if c = 'n' then readWord ['u', 'l', 'l'] .null rest
      else if c = '-' then readUnsigned true rest
      else readUnsigned false (c :: rest)

/-- Reads the items of a list behind the ones read already. -/
def readItems : Nat → List Json → List Char → Option (Json × List Char)
  | 0, _, _ => none
  | fuel + 1, done, cs =>
    match readValue fuel cs with
    | none => none
    | some (item, rest) =>
      match skipSpace rest with
      | ',' :: rest => readItems fuel (item :: done) rest
      | ']' :: rest => some (.list (item :: done).reverse, rest)
      | _ => none

/-- Reads the fields of a record behind the ones read already; `sound` says that all field
names so far were readable. -/
def readFields : Nat → List (String × Json) → Bool → List Char → Option (Json × List Char)
  | 0, _, _, _ => none
  | fuel + 1, done, sound, cs =>
    match skipSpace cs with
    | '\"' :: rest =>
      match readText (rest.length + 1) (.chars []) rest with
      | none => none
      | some (name, rest) =>
        match skipSpace rest with
        | ':' :: rest =>
          match readValue fuel rest with
          | none => none
          | some (value, rest) =>
            let (done, sound) := match name with
              | .chars said => ((String.ofList said.reverse, value) :: done, sound)
              | .broken => (done, false)
            match skipSpace rest with
            | ',' :: rest => readFields fuel done sound rest
            | '\x7d' :: rest => some (if sound then .record done.reverse else .unreadable, rest)
            | _ => none
        | _ => none
    | _ => none

end

/-- The value of a JSON text. -/
def ofText? (s : String) : Option Json :=
  let cs := s.toList
  match readValue (2 * cs.length + 2) cs with
  | some (value, rest) => if (skipSpace rest).isEmpty then some value else none
  | none => none

end WarehouseJobs.Json
