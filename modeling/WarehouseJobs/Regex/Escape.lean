-- What may stand for one character or one place in a pattern: the character itself, an
-- escape, a class by name, or a condition.
import WarehouseJobs.Regex.Classes
import WarehouseJobs.Text.Split
import WarehouseJobs.Text.Whole

namespace WarehouseJobs.Regex

open Text (hexValue?)

/-- How a part of a pattern is to be read. -/
structure Flags where
  ignoreCase : Bool := false
  manyLines : Bool := false
  dotIsAny : Bool := false
  anyLineEnd : Bool := false
  unicode : Bool := true
  /-- White space and comments between the parts do not count. -/
  spaced : Bool := false

/-- Passes what does not count. -/
def skip (flags : Flags) (cs : List Char) : List Char :=
  if flags.spaced then go false cs else cs
where
  go (inComment : Bool) : List Char → List Char
    | [] => []
    | c :: rest =>
      if inComment then go (c ≠ '\n') rest
      else if Text.isBlankChar c then go false rest
      else if c = '#' then go true rest
      else c :: rest

/-- The text behind its first character. -/
def next (flags : Flags) (cs : List Char) : List Char := skip flags (cs.drop 1)

/-- What one escape or one plain character stands for. -/
inductive Item where
  | literal (c : Char)
  | set (s : CharSet) (weight : Nat)
  | condition (c : Condition)
  | dot

/-- What the sets of many ranges cost, and those of few. -/
def broadWeight : Nat := 60000
def narrowWeight : Nat := 600

/-! ## Characters by number -/

def charOf? (digits : List Nat) : Option Char :=
  let code := digits.foldl (fun value d => value * 16 + d) 0
  if code.isValidChar then some (Char.ofNat code) else none

/-- `count` digits; between them the parts that do not count may stand. -/
def hexDigits? (flags : Flags) : (count : Nat) → List Char → Option (List Nat × List Char)
  | 0, cs => some ([], cs)
  | count + 1, c :: cs =>
    match hexValue? c with
    | some d =>
      (hexDigits? flags count (if count = 0 then cs else skip flags cs)).map fun (ds, rest) =>
        (d :: ds, rest)
    | none => none
  | _, [] => none

/-- Digits up to a closing brace. -/
def bracedDigits? (flags : Flags) : (fuel : Nat) → List Char → Option (List Nat × List Char)
  | 0, _ => none
  | fuel + 1, cs =>
    match skip flags cs with
    | '\x7d' :: rest => some ([], rest)
    | c :: rest =>
      match hexValue? c with
      | some d => (bracedDigits? flags fuel rest).map fun (ds, rest) => (d :: ds, rest)
      | none => none
    | [] => none

/-- A character by its number, from what stands behind the letter. Two bare digits name a
byte, which without scripts may only be an ASCII character. -/
def numbered? (flags : Flags) (letter : Char) (cs : List Char) : Option (Char × List Char) :=
  match skip flags cs with
  | '\x7b' :: rest =>
    match bracedDigits? flags (rest.length + 1) rest with
    | some ([], _) => none
    | some (digits, rest) => (charOf? digits).map fun c => (c, rest)
    | none => none
  | cs =>
    let count := if letter = 'x' then 2 else if letter = 'u' then 4 else 8
    match hexDigits? flags count cs with
    | some (digits, rest) =>
      (charOf? digits).bind fun c =>
        if letter = 'x' ∧ !flags.unicode ∧ 0x7F < c.toNat then none else some (c, rest)
    | none => none

/-! ## Classes by property -/

/-- A class by the text between its braces. -/
def propertySet? (given : String) : Option CharSet :=
  match given.splitOn "!=" with
  | property :: value :: more =>
    (valueClass? property ("!=".intercalate (value :: more))).map notIn
  | _ =>
    match Text.splitFirst ':' given.toList with
    | some (property, value) => valueClass? (String.ofList property) (String.ofList value)
    | none =>
      match Text.splitFirst '=' given.toList with
      | some (property, value) => valueClass? (String.ofList property) (String.ofList value)
      | none => namedClass? given

/-- The text up to a closing brace. -/
def braced? (flags : Flags) : (fuel : Nat) → List Char → Option (List Char × List Char)
  | 0, _ => none
  | fuel + 1, cs =>
    match skip flags cs with
    | '\x7d' :: rest => some ([], rest)
    | c :: rest => (braced? flags fuel rest).map fun (name, rest) => (c :: name, rest)
    | [] => none

/-- A class by its property, from what stands behind the letter. Case is looked at before
the class is turned round. -/
def property? (flags : Flags) (negated : Bool) (cs : List Char) : Option (Item × List Char) :=
  let read := match skip flags cs with
    | [] => none
    | '\x7b' :: rest => braced? flags (rest.length + 1) rest
    | c :: rest => if c = '\\' then none else some ([c], rest)
  match read with
  | none => none
  | some (name, rest) =>
    match (if flags.unicode then propertySet? (String.ofList name) else none) with
    | none => none
    | some s =>
      let s := if flags.ignoreCase then anyCase s else s
      some (.set (if negated then notIn s else s) broadWeight, rest)

/-! ## Conditions on words -/

def wordSet (flags : Flags) : CharSet :=
  if flags.unicode then Text.isWordChar else fun c => Text.isAscii c && Text.isWordChar c

def isBoundaryChar (c : Char) : Bool := Text.isAsciiLetter c || c = '-'

/-- The letters of a condition between braces. -/
def boundaryName (flags : Flags) : (fuel : Nat) → List Char → List Char × List Char
  | 0, cs => ([], cs)
  | fuel + 1, cs =>
    match skip flags cs with
    | c :: rest =>
      if isBoundaryChar c then
        let (name, rest) := boundaryName flags fuel rest
        (c :: name, rest)
      else ([], c :: rest)
    | [] => ([], [])

/-- The condition behind `\b`. A brace that no letter follows belongs to a count. -/
def boundary? (flags : Flags) (cs : List Char) : Option (Condition × List Char) :=
  let inWord := wordSet flags
  match cs with
  | '\x7b' :: rest =>
    match skip flags rest with
    | [] => none
    | c :: _ =>
      if isBoundaryChar c then
        match boundaryName flags (rest.length + 1) rest with
        | (name, '\x7d' :: rest) =>
          match String.ofList name with
          | "start" => some (.wordStart inWord, rest)
          | "end" => some (.wordEnd inWord, rest)
          | "start-half" => some (.wordStartHalf inWord, rest)
          | "end-half" => some (.wordEndHalf inWord, rest)
          | _ => none
        | _ => none
      else some (.wordBoundary inWord, cs)
  | cs => some (.wordBoundary inWord, cs)

/-! ## Escapes -/

/-- A class of one letter, turned round or not. Without scripts it must stay within ASCII. -/
def letterSet? (flags : Flags) (c : Char) : Option (CharSet × Nat) :=
  match letterClass? flags.unicode c.toLower with
  | none => none
  | some s =>
    let weight := if !flags.unicode ∨ c.toLower = 's' then narrowWeight
      else if c.toLower = 'd' then 8 * narrowWeight
      else broadWeight
    if c.isLower then some (s, weight)
    else if flags.unicode then some (notIn s, weight)
    else none

/-- What an escape stands for, from what stands behind the backslash. -/
def escape? (flags : Flags) : List Char → Option (Item × List Char)
  | [] => none
  | c :: rest =>
    if Text.isAsciiDigit c then none
    else if c = 'x' ∨ c = 'u' ∨ c = 'U' then
      (numbered? flags c rest).map fun (c, rest) => (.literal c, rest)
    else if c = 'p' ∨ c = 'P' then property? flags (c = 'P') rest
    else if ['d', 's', 'w', 'D', 'S', 'W'].contains c then
      (letterSet? flags c).map fun (s, weight) => (.set s weight, rest)
    else
      match c with
      | 'a' => some (.literal '\x07', rest)
      | 'f' => some (.literal '\x0c', rest)
      | 't' => some (.literal '\t', rest)
      | 'n' => some (.literal '\n', rest)
      | 'r' => some (.literal '\r', rest)
      | 'v' => some (.literal '\x0b', rest)
      | 'A' => some (.condition .textStart, rest)
      | 'z' => some (.condition .textEnd, rest)
      | 'b' => (boundary? flags rest).map fun (b, rest) => (.condition b, rest)
      | 'B' => some (.condition (.noWordBoundary (wordSet flags)), rest)
      | '<' => some (.condition (.wordStart (wordSet flags)), rest)
      | '>' => some (.condition (.wordEnd (wordSet flags)), rest)
      | c =>
        if Text.isAscii c ∧ !Text.isAsciiLetter c then some (.literal c, rest) else none

end WarehouseJobs.Regex
