-- Reading a settings text: lines of keys with values, under headers that name tables.
import WarehouseJobs.Toml.Quote
import WarehouseJobs.Toml.Scalar
import WarehouseJobs.Toml.Tree

namespace WarehouseJobs.Toml

def skipSpace (cs : List Char) : List Char := cs.dropWhile isSpace

/-- How deep values and keys may be nested. -/
def depthLimit : Nat := 80

/-! ## Keys -/

def isBareChar (c : Char) : Bool :=
  isDecimal c || ('a' ≤ c && c ≤ 'z') || ('A' ≤ c && c ≤ 'Z') || c = '_' || c = '-'

/-- One key, bare or between quotes. -/
def simpleKey? : List Char → Option (String × List Char)
  | '\"' :: rest => basic? (rest.length + 1) [] rest
  | '\'' :: rest => literal? rest
  | cs =>
    let (key, rest) := cs.span isBareChar
    if key.isEmpty then none else some (String.ofList key, rest)

/-- Keys between points. Every key takes at least one character. -/
def keys? : (fuel : Nat) → List Char → Option (List String × List Char)
  | 0, _ => none
  | fuel + 1, cs =>
    match simpleKey? (skipSpace cs) with
    | none => none
    | some (key, rest) =>
      match skipSpace rest with
      | '.' :: rest => (keys? fuel rest).map fun (keys, rest) => (key :: keys, rest)
      | rest => some ([key], rest)

def key? (cs : List Char) : Option (List String × List Char) :=
  (keys? (cs.length + 1) cs).filter fun (keys, _) => keys.length < depthLimit

/-! ## Line ends -/

/-- The text behind a comment, up to the end of its line. -/
def comment? (cs : List Char) : Option (List Char) :=
  match cs with
  | '#' :: rest =>
    let (said, rest) := rest.span fun c => c ≠ '\n' && c ≠ '\r'
    if said.all isAllowed then some rest else none
  | cs => some cs

/-- The next line, if nothing but white space and a comment stands in front of it. -/
def lineEnd? (cs : List Char) : Option (List Char) :=
  match comment? (skipSpace cs) with
  | some [] => some []
  | some rest => behindBreak? rest
  | none => none

/-- The text behind white space, comments and line breaks, as they may stand in a list. -/
def skipLines? : (fuel : Nat) → List Char → Option (List Char)
  | 0, cs => some cs
  | fuel + 1, cs =>
    match skipSpace cs with
    | '#' :: rest =>
      match comment? ('#' :: rest) with
      | some rest =>
        match behindBreak? rest with
        | some rest => skipLines? fuel rest
        | none => none
      | none => none
    | rest =>
      match behindBreak? rest with
      | some rest => skipLines? fuel rest
      | none => some rest

/-! ## Values -/

mutual

/-- Reads one value at a depth. Every step takes at least one character. -/
def value? : (fuel : Nat) → (depth : Nat) → List Char → Option (Json × List Char)
  | 0, _, _ => none
  | _, _, [] => none
  | fuel + 1, depth, c :: rest =>
    if c = '\"' ∨ c = '\'' then
      (quote? (c :: rest)).map fun (said, rest) => (.text said, rest)
    else if c = '[' then
      if depth + 1 < depthLimit then items? fuel (depth + 1) [] rest else none
    else if c = '\x7b' then
      if depth + 1 < depthLimit then
        match skipSpace rest with
        | '\x7d' :: rest => some (.record [], rest)
        | rest => entries? fuel (depth + 1) {} rest
      else none
    else scalar? (c :: rest)

/-- Reads the values of a list behind those read already. -/
def items? : (fuel : Nat) → (depth : Nat) → (reversed : List Json) → List Char →
    Option (Json × List Char)
  | 0, _, _, _ => none
  | fuel + 1, depth, done, cs =>
    match skipLines? (cs.length + 1) cs with
    | none => none
    | some (']' :: rest) => some (.list done.reverse, rest)
    | some cs =>
      match value? fuel depth cs with
      | none => none
      | some (v, rest) =>
        match skipLines? (rest.length + 1) rest with
        | some (',' :: rest) => items? fuel depth (v :: done) rest
        | some (']' :: rest) => some (.list (v :: done).reverse, rest)
        | _ => none

/-- Reads the entries of a table on one line behind those read already. -/
def entries? : (fuel : Nat) → (depth : Nat) → (done : Table) → List Char →
    Option (Json × List Char)
  | 0, _, _, _ => none
  | fuel + 1, depth, done, cs =>
    match key? cs with
    | none => none
    | some (keys, rest) =>
      match skipSpace rest with
      | '=' :: rest =>
        match value? fuel depth (skipSpace rest) with
        | none => none
        | some (v, rest) =>
          match done.put keys.dropLast (keys.getLast?.getD "") v with
          | none => none
          | some done =>
            match skipSpace rest with
            | ',' :: rest => entries? fuel depth done rest
            | '\x7d' :: rest => some (done.item.toJson, rest)
            | _ => none
      | _ => none

end

/-! ## Lines -/

/-- A header, from what stands behind its first bracket. -/
def header? (r : Reading) (cs : List Char) : Option (Reading × List Char) :=
  match cs with
  | '[' :: rest =>
    match key? rest with
    | some (path, ']' :: ']' :: rest) => (r.openRepeated path).map fun r => (r, rest)
    | _ => none
  | cs =>
    match key? cs with
    | some (path, ']' :: rest) => (r.openTable path).map fun r => (r, rest)
    | _ => none

/-- A key with its value. -/
def entry? (r : Reading) (cs : List Char) : Option (Reading × List Char) :=
  match key? cs with
  | some (keys, '=' :: rest) =>
    match value? (2 * rest.length + 2) 0 (skipSpace rest) with
    | some (v, rest) => (r.put keys.dropLast (keys.getLast?.getD "") v).map fun r => (r, rest)
    | none => none
  | _ => none

/-- Reads line after line. Every line takes at least one character. -/
def lines? : (fuel : Nat) → Reading → List Char → Option Reading
  | 0, _, _ => none
  | fuel + 1, r, cs =>
    match skipSpace cs with
    | [] => some r
    | c :: rest =>
      if c = '#' ∨ c = '\n' ∨ c = '\r' then
        match lineEnd? (c :: rest) with
        | some next => lines? fuel r next
        | none => none
      else
        match (if c = '[' then header? r rest else entry? r (c :: rest)) with
        | none => none
        | some (r, rest) =>
          match lineEnd? rest with
          | some next => lines? fuel r next
          | none => none

/-- The record of a whole settings text. A byte order mark may stand in front. -/
def ofText? (s : String) : Option Json :=
  let cs := s.toList
  let cs := if cs.head? = some (Char.ofNat 0xFEFF) then cs.drop 1 else cs
  match lines? (cs.length + 1) {} cs with
  | some r => r.settle.map fun root => root.item.toJson
  | none => none

end WarehouseJobs.Toml
