-- Reading a pattern. Flags count from where they stand to the end of their group.
import WarehouseJobs.Regex.Bracket
import WarehouseJobs.Regex.Matching

namespace WarehouseJobs.Regex

/-! ## Flags -/

/-- The letters of the flags: case, lines, dot, greed, scripts, line ends, spaces. -/
def flagLetters : List Char := ['i', 'm', 's', 'U', 'u', 'R', 'x']

def setFlag (flags : Flags) (c : Char) (on : Bool) : Flags :=
  match c with
  | 'i' => { flags with ignoreCase := on }
  | 'm' => { flags with manyLines := on }
  | 's' => { flags with dotIsAny := on }
  | 'u' => { flags with unicode := on }
  | 'R' => { flags with anyLineEnd := on }
  | 'x' => { flags with spaced := on }
  | _ => flags

/-- Flags up to a colon or a closing parenthesis. Each may stand once; those behind a hyphen
are turned off. `seen` are the letters so far, in order from the last. -/
def flags? (flags : Flags) : (seen : List Char) → List Char → Option (Flags × List Char × List Char)
  | _, [] => none
  | seen, c :: rest =>
    if c = ':' ∨ c = ')' then
      if seen.head? = some '-' then none else some (flags, seen, c :: rest)
    else if seen.contains c then none
    else if c = '-' then flags? flags (c :: seen) rest
    else if flagLetters.contains c then
      flags? (setFlag flags c (!seen.contains '-')) (c :: seen) rest
    else none

/-! ## Groups -/

/-- What an opening parenthesis stands for. -/
inductive Opening where
  /-- Flags for the rest of the group around it. -/
  | setting (flags : Flags)
  | group (name : Option String) (flags : Flags)

def isNameStart (c : Char) : Bool :=
  c = '_' || (if Text.isAscii c then Text.isAsciiLetter c else isAlphabetic c)

def isNameChar (c : Char) : Bool :=
  isNameStart c || c = '.' || c = '[' || c = ']' ||
    (if Text.isAscii c then Text.isAsciiDigit c else (Text.categoryOf c).group = 'N')

/-- The name of a group, up to its closing bracket. -/
def groupName? (cs : List Char) : Option (String × List Char) :=
  let (name, rest) := cs.span (· ≠ '>')
  match name, rest with
  | first :: later, _ :: rest =>
    if isNameStart first ∧ later.all isNameChar then some (String.ofList name, rest) else none
  | _, _ => none

/-- Reads what stands behind an opening parenthesis. Looking ahead or behind is refused. -/
def opening? (flags : Flags) (cs : List Char) : Option (Opening × List Char) :=
  match skip flags cs with
  | '?' :: 'P' :: '<' :: rest =>
    (groupName? rest).map fun (name, rest) => (.group (some name) flags, rest)
  | '?' :: '<' :: rest =>
    if rest.head? = some '=' ∨ rest.head? = some '!' then none
    else (groupName? rest).map fun (name, rest) => (.group (some name) flags, rest)
  | '?' :: rest =>
    match flags? flags [] rest with
    | some (_, [], ')' :: _) => none
    | some (flags, _, ')' :: rest) => some (.setting flags, rest)
    | some (flags, _, _ :: rest) => some (.group none flags, rest)
    | _ => none
  | rest => some (.group none flags, rest)

/-! ## Counts -/

/-- A number with white space around it. -/
def count? (flags : Flags) (cs : List Char) : Option (Nat × List Char) :=
  let cs := cs.dropWhile Text.isBlankChar
  let (digits, rest) := digitsOf cs.length cs
  ((Text.digits? digits).filter (· ≤ Text.largest32)).map fun n =>
    (n, skip flags (rest.dropWhile Text.isBlankChar))
where
  digitsOf : Nat → List Char → List Char × List Char
    | 0, cs => ([], cs)
    | _, [] => ([], [])
    | fuel + 1, c :: cs =>
      if Text.isAsciiDigit c then
        let (ds, rest) := digitsOf fuel (skip flags cs)
        (c :: ds, rest)
      else ([], c :: cs)

/-- How often, from what stands behind an opening brace. -/
def counts? (flags : Flags) (cs : List Char) : Option (Nat × Option Nat × List Char) :=
  match count? flags (skip flags cs) with
  | none => none
  | some (least, '\x7d' :: rest) => some (least, some least, rest)
  | some (least, ',' :: rest) =>
    match skip flags rest with
    | '\x7d' :: rest => some (least, none, rest)
    | rest =>
      match count? flags rest with
      | some (most, '\x7d' :: rest) => if least ≤ most then some (least, some most, rest) else none
      | _ => none
  | some _ => none

/-! ## Parts -/

def utf8Length (c : Char) : Nat := c.utf8Size

/-- The pattern of one character or escape. -/
def partOf? (flags : Flags) : Item → Option Pattern
  | .literal c =>
    some (.char (foldedSet flags (single c)) (Pattern.stateWeight * utf8Length c))
  | .set s weight => some (.char s weight)
  | .condition c => some (.condition c)
  | .dot =>
    if !flags.unicode then none
    else
      some (.char (fun c => flags.dotIsAny || (c ≠ '\n' && !(flags.anyLineEnd && c = '\r')))
        narrowWeight)

/-- A character, an escape, a dot, or the start or end of a line. -/
def part? (flags : Flags) : List Char → Option (Pattern × List Char)
  | [] => none
  | '\\' :: rest => (escape? flags rest).bind fun (u, rest) => (partOf? flags u).map fun p => (p, rest)
  | '.' :: rest => (partOf? flags .dot).map fun p => (p, rest)
  | '^' :: rest =>
    some (.condition (if !flags.manyLines then .textStart
      else if flags.anyLineEnd then .lineStartAny else .lineStart), rest)
  | '$' :: rest =>
    some (.condition (if !flags.manyLines then .textEnd
      else if flags.anyLineEnd then .lineEndAny else .lineEnd), rest)
  | c :: rest => (partOf? flags (.literal c)).map fun p => (p, rest)

/-- A mark behind a count that only says in which order to try. -/
def skipLazy : List Char → List Char
  | '?' :: rest => rest
  | cs => cs

/-- What has been read of a group: its branches, and the parts of the last one. Flags leave
an empty place that cannot be repeated. -/
structure Parsed where
  branches : List Pattern := []
  parts : List (Option Pattern) := []
  /-- The names of groups so far. -/
  names : List String := []

def Parsed.add (r : Parsed) (p : Option Pattern) : Parsed := { r with parts := p :: r.parts }

/-- Repeats the last part. -/
def Parsed.repeatLast? (r : Parsed) (least : Nat) (most : Option Nat) : Option Parsed :=
  match r.parts with
  | some p :: parts => some { r with parts := some (.repeated least most p) :: parts }
  | _ => none

def Parsed.branch (r : Parsed) : Pattern :=
  .inSequence (r.parts.reverse.map fun p => p.getD .empty)

def Parsed.pattern (r : Parsed) : Pattern := .oneOf (r.branch :: r.branches).reverse

/-- Reads up to the end of a group, and gives what is left. Every step takes at least one
character. -/
def group? : (fuel : Nat) → Flags → Parsed → List Char → Option (Parsed × List Char)
  | 0, _, _, _ => none
  | fuel + 1, flags, r, cs =>
    match skip flags cs with
    | [] => some (r, [])
    | c :: rest =>
      if c = ')' then some (r, c :: rest)
      else if c = '|' then
        group? fuel flags { r with branches := r.branch :: r.branches, parts := [] } rest
      else if c = '(' then
        match opening? flags rest with
        | none => none
        | some (.setting flags, rest) => group? fuel flags (r.add none) rest
        | some (.group name inner, rest) =>
          if name.any r.names.contains then none
          else
            match group? fuel inner { names := name.toList ++ r.names } rest with
            | some (read, ')' :: rest) =>
              group? fuel flags { r.add (some (.group read.pattern)) with names := read.names } rest
            | _ => none
      else if c = '[' then
        match set? flags (rest.length + 1) rest with
        | some (s, rest) => group? fuel flags (r.add (some (.char s narrowWeight))) rest
        | none => none
      else if c = '?' then
        (r.repeatLast? 0 (some 1)).bind fun r => group? fuel flags r (skipLazy rest)
      else if c = '*' then (r.repeatLast? 0 none).bind fun r => group? fuel flags r (skipLazy rest)
      else if c = '+' then (r.repeatLast? 1 none).bind fun r => group? fuel flags r (skipLazy rest)
      else if c = '\x7b' then
        match r.parts.head?, counts? flags rest with
        | some (some _), some (least, most, rest) =>
          (r.repeatLast? least most).bind fun r => group? fuel flags r (skipLazy (skip flags rest))
        | _, _ => none
      else
        match part? flags (c :: rest) with
        | some (p, rest) => group? fuel flags (r.add (some p)) rest
        | none => none

/-- The pattern of a text, unless it is nested too deep or would cost too much. -/
def Pattern.ofText? (s : String) : Option Pattern :=
  let cs := s.toList
  match group? (cs.length + 1) {} {} cs with
  | some (r, []) =>
    let p := r.pattern
    if p.depth ≤ depthLimit ∧ p.weight ≤ weightLimit then some p else none
  | _ => none

end WarehouseJobs.Regex
