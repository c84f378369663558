-- Plain values of a settings text: truth values, numbers and dates. Each is one word, and
-- only a date may go on with a time behind a space.
import WarehouseJobs.Decimal.Nearest
import WarehouseJobs.Json.Value
import WarehouseJobs.Text.Split
import WarehouseJobs.Time.Calendar

namespace WarehouseJobs.Toml

/-! ## Digits -/

def isDecimal (c : Char) : Bool := '0' ≤ c && c ≤ '9'

/-- The digits without the underscores between them. -/
def plainDigits? (isDigit : Char → Bool) : List Char → Option (List Char)
  | [] => none
  | [c] => if isDigit c then some [c] else none
  | c :: '_' :: rest => if isDigit c then (plainDigits? isDigit rest).map (c :: ·) else none
  | c :: rest => if isDigit c then (plainDigits? isDigit rest).map (c :: ·) else none

/-- Decimal digits of a whole number: no zero in front of others. -/
def wholeDigits? (cs : List Char) : Option (List Char) :=
  (plainDigits? isDecimal cs).filter fun digits => digits.length = 1 || digits.head? ≠ some '0'

def splitSign : List Char → Bool × List Char
  | '-' :: rest => (true, rest)
  | '+' :: rest => (false, rest)
  | cs => (false, cs)

/-! ## Whole numbers -/

/-- A whole number of 64 bits. -/
def bounded? (negative : Bool) (n : Nat) : Option Json :=
  if negative then (if n ≤ Nat.pow 2 63 then some (.number (.whole (-(n : Int)))) else none)
  else if n < Nat.pow 2 63 then some (.number (.whole n))
  else none

def valueIn (base : Nat) (digits : List Char) : Nat :=
  digits.foldl (fun value c =>
    value * base + (if isDecimal c then c.toNat - '0'.toNat else c.toLower.toNat - 'a'.toNat + 10)) 0

def isHexadecimal (c : Char) : Bool :=
  isDecimal c || ('a' ≤ c && c ≤ 'f') || ('A' ≤ c && c ≤ 'F')

def whole? : List Char → Option Json
  | '0' :: 'x' :: rest => (plainDigits? isHexadecimal rest).bind fun ds => bounded? false (valueIn 16 ds)
  | '0' :: 'o' :: rest =>
    (plainDigits? (fun c => '0' ≤ c && c ≤ '7') rest).bind fun ds => bounded? false (valueIn 8 ds)
  | '0' :: 'b' :: rest =>
    (plainDigits? (fun c => c = '0' || c = '1') rest).bind fun ds => bounded? false (valueIn 2 ds)
  | cs =>
    let (negative, cs) := splitSign cs
    (wholeDigits? cs).bind fun ds => bounded? negative (valueIn 10 ds)

/-! ## Numbers with a point or an exponent -/

def isNumberChar (c : Char) : Bool := isDecimal c || c = '_'

/-- The exponent at the end of a number; `some none` if there is none. -/
def exponent? : List Char → Option (Option Int)
  | [] => some none
  | c :: cs =>
    if c = 'e' ∨ c = 'E' then
      let (down, cs) := splitSign cs
      (plainDigits? isDecimal cs).map fun ds =>
        some (if down then -(valueIn 10 ds : Int) else (valueIn 10 ds : Int))
    else none

/-- A double. Texts beyond the largest one are refused, but not those below the least. -/
def real? (cs : List Char) : Option Json := do
  let (negative, cs) := splitSign cs
  let (front, rest) := cs.span isNumberChar
  let whole ← wholeDigits? front
  let (part, rest) ← match rest with
    | '.' :: rest => do
      let (part, rest) := rest.span isNumberChar
      some (← plainDigits? isDecimal part, rest)
    | rest => some ([], rest)
  let exponent ← exponent? rest
  if part.isEmpty ∧ exponent.isNone then none
  else
    let x := Decimal.nearest negative (valueIn 10 (whole ++ part)) (exponent.getD 0 - part.length)
    if x.isInf ∧ !negative then none else some (.number (.double x))

def named? (cs : List Char) : Option Json :=
  let (negative, word) := splitSign cs
  if word = ['i', 'n', 'f'] then
    some (.number (.double (if negative then -(1.0 / 0.0) else 1.0 / 0.0)))
  else if word = ['n', 'a', 'n'] then some (.number (.double (0.0 / 0.0)))
  else none

/-! ## Dates and times -/

/-- Exactly `count` digits. -/
def digitsOf? (count : Nat) (cs : List Char) : Option Nat :=
  if cs.length = count ∧ cs.all isDecimal then some (valueIn 10 cs) else none

/-- `1979-05-27`. -/
def isDate (cs : List Char) : Bool :=
  match Text.splitAll '-' cs with
  | [year, month, day] =>
    match digitsOf? 4 year, digitsOf? 2 month, digitsOf? 2 day with
    | some y, some m, some d => Date.isReal ⟨y, m, d⟩
    | _, _, _ => false
  | _ => false

/-- `07:32`, with an hour of the day and a minute. -/
def isHourMinute (cs : List Char) : Bool :=
  match Text.splitAll ':' cs with
  | [hour, minute] =>
    match digitsOf? 2 hour, digitsOf? 2 minute with
    | some h, some m => h ≤ 23 && m ≤ 59
    | _, _ => false
  | _ => false

/-- `07:32:00`, where a part of a second may follow. -/
def isTime (cs : List Char) : Bool :=
  let second := cs.drop 6
  let fraction := second.drop 2
  isHourMinute (cs.take 5) && cs[5]? = some ':' &&
    (match digitsOf? 2 (second.take 2) with
     | some s => s ≤ 60
     | none => false) &&
    (match fraction with
     | [] => true
     | c :: digits => c = '.' && !digits.isEmpty && digits.all isDecimal)

/-- A time, where a zone may follow. -/
def isZonedTime (cs : List Char) : Bool :=
  isTime cs ||
    (match cs.reverse with
     | c :: rest => (c = 'Z' || c = 'z') && isTime rest.reverse
     | [] => false) ||
    (let front := cs.take (cs.length - 6)
     let zone := cs.drop (cs.length - 6)
     match zone with
     | sign :: offset => (sign = '+' || sign = '-') && isHourMinute offset && isTime front
     | [] => false)

def isDateTime (cs : List Char) : Bool :=
  match cs[10]? with
  | some c => (c = 'T' || c = 't') && isDate (cs.take 10) && isZonedTime (cs.drop 11)
  | none => false

/-- A date or a time is a record of one field that nobody asks for. -/
def moment (cs : List Char) : Json :=
  .record [("$__toml_private_datetime", .text (String.ofList cs))]

/-! ## Words -/

def isWordChar (c : Char) : Bool :=
  isDecimal c || ('a' ≤ c && c ≤ 'z') || ('A' ≤ c && c ≤ 'Z') ||
    c = '_' || c = '+' || c = '-' || c = '.' || c = ':'

/-- The value of one word. -/
def word? (cs : List Char) : Option Json :=
  if cs = ['t', 'r', 'u', 'e'] then some (.bool true)
  else if cs = ['f', 'a', 'l', 's', 'e'] then some (.bool false)
  else if isDate cs || isDateTime cs || isTime cs then some (moment cs)
  else (named? cs).or ((real? cs).or (whole? cs))

/-- Reads one plain value. -/
def scalar? (cs : List Char) : Option (Json × List Char) :=
  let (word, rest) := cs.span isWordChar
  match isDate word, rest with
  | true, ' ' :: later =>
    let (time, behind) := later.span isWordChar
    if time.isEmpty then some (moment word, rest)
    else if isZonedTime time then some (moment (word ++ ' ' :: time), behind)
    else none
  | _, _ => (word? word).map fun value => (value, rest)

end WarehouseJobs.Toml
