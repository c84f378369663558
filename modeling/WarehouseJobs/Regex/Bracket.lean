-- Sets of characters between square brackets: characters, ranges and classes together, sets
-- inside sets, and what two sets have in common or not.
import WarehouseJobs.Regex.Escape

namespace WarehouseJobs.Regex

/-- How two sets make one. -/
inductive SetOperation where
  | intersection
  | difference
  | symmetricDifference
deriving DecidableEq, Repr

def SetOperation.apply : SetOperation → CharSet → CharSet → CharSet
  | .intersection, a, b => both a b
  | .difference, a, b => both a (notIn b)
  | .symmetricDifference, a, b => fun c => a c != b c

/-- A set with the other case, if case does not count. -/
def foldedSet (flags : Flags) (s : CharSet) : CharSet :=
  if flags.ignoreCase then (if flags.unicode then anyCase s else anyAsciiCase s) else s

/-- Finishes the set on the right of an operation. -/
def combine (flags : Flags) : Option (SetOperation × CharSet) → CharSet → CharSet
  | none, s => s
  | some (operation, left), s => operation.apply (foldedSet flags left) (foldedSet flags s)

/-- A character of a set has to be one that the set can hold. -/
def literalSet? (flags : Flags) (c : Char) : Option CharSet :=
  if flags.unicode ∨ Text.isAscii c then some (single c) else none

def itemSet? (flags : Flags) : Item → Option CharSet
  | .literal c => literalSet? flags c
  | .set s _ => some s
  | _ => none

/-- One character or escape of a set. -/
def setItem? (flags : Flags) : List Char → Option (Item × List Char)
  | [] => none
  | '\\' :: rest => escape? flags rest
  | c :: rest => some (.literal c, rest)

/-- A character, a class, or a range of characters. -/
def setRange? (flags : Flags) (cs : List Char) : Option (CharSet × List Char) :=
  match setItem? flags cs with
  | none => none
  | some (first, rest) =>
    match skip flags rest with
    | [] => none
    | '-' :: behind =>
      match skip flags behind with
      | ']' :: _ => (itemSet? flags first).map fun s => (s, '-' :: behind)
      | '-' :: _ => (itemSet? flags first).map fun s => (s, '-' :: behind)
      | [] => none
      | later =>
        match first, setItem? flags later with
        | .literal a, some (.literal b, rest) =>
          match literalSet? flags a, literalSet? flags b with
          | some _, some _ => if a ≤ b then some (between a b, rest) else none
          | _, _ => none
        | _, _ => none
    | later => (itemSet? flags first).map fun s => (s, later)

/-- A class between `[:` and `:]`. What only starts like one is read again as a set. -/
def asciiSet? (flags : Flags) (cs : List Char) : Option (CharSet × List Char) :=
  match cs with
  | '[' :: ':' :: rest =>
    let (negated, rest) := match rest with
      | '^' :: rest => (true, rest)
      | rest => (false, rest)
    let (name, rest) := rest.span (· ≠ ':')
    match rest with
    | ':' :: ']' :: rest =>
      (asciiClass? (String.ofList name)).map fun s =>
        let s := foldedSet flags s
        (if negated then notIn s else s, rest)
    | _ => none
  | _ => none

/-- Hyphens in front of a set are characters of it. -/
def leadingHyphens (flags : Flags) : (fuel : Nat) → CharSet → Bool → List Char →
    CharSet × Bool × List Char
  | 0, s, any, cs => (s, any, cs)
  | fuel + 1, s, any, cs =>
    match cs with
    | '-' :: rest => leadingHyphens flags fuel (either s (single '-')) true (skip flags rest)
    | cs => (s, any, cs)

/-- A set may only be turned round within ASCII where there are no scripts. -/
def finished? (flags : Flags) (negated : Bool) (s : CharSet) : Option CharSet :=
  let s := foldedSet flags s
  let s := if negated then notIn s else s
  if flags.unicode || !s (Char.ofNat 0xE9) then some s else none

mutual

/-- Reads a set from behind its opening bracket. Every step takes at least one character. -/
def set? (flags : Flags) : (fuel : Nat) → List Char → Option (CharSet × List Char)
  | 0, _ => none
  | fuel + 1, cs =>
    let (negated, cs) := match skip flags cs with
      | '^' :: rest => (true, skip flags rest)
      | cs => (false, cs)
    let (s, any, cs) := leadingHyphens flags cs.length noChar false cs
    let (s, cs) := match any, cs with
      | false, ']' :: rest => (single ']', skip flags rest)
      | _, cs => (s, cs)
    match setItems? flags fuel none s cs with
    | some (s, rest) => (finished? flags negated s).map fun s => (s, rest)
    | none => none

/-- Reads the items of a set up to its closing bracket. -/
def setItems? (flags : Flags) : (fuel : Nat) → Option (SetOperation × CharSet) → CharSet →
    List Char → Option (CharSet × List Char)
  | 0, _, _, _ => none
  | fuel + 1, left, s, cs =>
    match skip flags cs with
    | [] => none
    | ']' :: rest => some (combine flags left s, rest)
    | '&' :: '&' :: rest => setItems? flags fuel (some (.intersection, combine flags left s)) noChar rest
    | '-' :: '-' :: rest => setItems? flags fuel (some (.difference, combine flags left s)) noChar rest
    | '~' :: '~' :: rest =>
      setItems? flags fuel (some (.symmetricDifference, combine flags left s)) noChar rest
    | '[' :: rest =>
      match asciiSet? flags ('[' :: rest) with
      | some (inner, rest) => setItems? flags fuel left (either s inner) rest
      | none =>
        match set? flags fuel rest with
        | some (inner, rest) => setItems? flags fuel left (either s inner) rest
        | none => none
    | cs =>
      match setRange? flags cs with
      | some (item, rest) => setItems? flags fuel left (either s item) rest
      | none => none

end

end WarehouseJobs.Regex
