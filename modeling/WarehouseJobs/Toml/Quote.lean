-- Texts in a settings text: between single or double quotes, on one line or, between three
-- of them, on many. Escapes count only between double quotes.
import WarehouseJobs.Text.Whole

namespace WarehouseJobs.Toml

open Text (hexValue?)

def isSpace (c : Char) : Bool := c = ' ' || c = '\t'

/-- What may stand in a text or a comment: no control character but the tab. -/
def isAllowed (c : Char) : Bool := c = '\t' || (0x20 ≤ c.toNat && c.toNat ≠ 0x7F)

/-- The text behind a line break, if one stands in front. -/
def behindBreak? : List Char → Option (List Char)
  | '\n' :: rest => some rest
  | '\r' :: '\n' :: rest => some rest
  | _ => none

/-- A character by `count` hexadecimal digits. -/
def numbered? (count : Nat) (cs : List Char) : Option (Char × List Char) :=
  if cs.length < count then none
  else
    match (cs.take count).mapM hexValue? with
    | none => none
    | some digits =>
      let code := digits.foldl (fun value d => value * 16 + d) 0
      if code.isValidChar then some (Char.ofNat code, cs.drop count) else none

/-- The character of an escape, from what stands behind the backslash. -/
def escape? : List Char → Option (Char × List Char)
  | 'b' :: rest => some ('\x08', rest)
  | 't' :: rest => some ('\t', rest)
  | 'n' :: rest => some ('\n', rest)
  | 'f' :: rest => some ('\x0c', rest)
  | 'r' :: rest => some ('\r', rest)
  | '\"' :: rest => some ('\"', rest)
  | '\\' :: rest => some ('\\', rest)
  | 'u' :: rest => numbered? 4 rest
  | 'U' :: rest => numbered? 8 rest
  | _ => none

/-- The text behind white space and line breaks. -/
def skipBreaks : List Char → List Char
  | '\r' :: '\n' :: rest => skipBreaks rest
  | c :: rest => if isSpace c || c = '\n' then skipBreaks rest else c :: rest
  | [] => []

/-! ## On one line -/

/-- A text up to its closing double quote; every step takes at least one character. -/
def basic? : (fuel : Nat) → (reversed : List Char) → List Char → Option (String × List Char)
  | 0, _, _ => none
  | _, _, [] => none
  | fuel + 1, said, c :: rest =>
    if c = '\"' then some (String.ofList said.reverse, rest)
    else if c = '\\' then
      match escape? rest with
      | some (e, rest) => basic? fuel (e :: said) rest
      | none => none
    else if isAllowed c then basic? fuel (c :: said) rest
    else none

/-- A text up to its closing single quote. -/
def literal? (cs : List Char) : Option (String × List Char) :=
  let (said, rest) := cs.span (· ≠ '\'')
  match rest with
  | _ :: rest => if said.all isAllowed then some (String.ofList said, rest) else none
  | [] => none

/-! ## On many lines -/

/-- How many of the character `c` stand in front. -/
def countOf (c : Char) (cs : List Char) : Nat := (cs.takeWhile (· = c)).length

/-- A text up to three closing quotes. Up to two quotes more may stand in front of them. -/
def manyLines? (quote : Char) : (fuel : Nat) → (reversed : List Char) → List Char →
    Option (String × List Char)
  | 0, _, _ => none
  | _, _, [] => none
  | fuel + 1, said, c :: rest =>
    if c = quote then
      let count := countOf quote (c :: rest)
      if count < 3 then manyLines? quote fuel (c :: said) rest
      else if count ≤ 5 then
        some (String.ofList (said.reverse ++ List.replicate (count - 3) quote),
          (c :: rest).drop count)
      else none
    else if c = '\\' ∧ quote = '\"' then
      match behindBreak? (rest.dropWhile isSpace) with
      | some later => manyLines? quote fuel said (skipBreaks later)
      | none =>
        match escape? rest with
        | some (e, rest) => manyLines? quote fuel (e :: said) rest
        | none => none
    else
      match behindBreak? (c :: rest) with
      | some later => manyLines? quote fuel ('\n' :: said) later
      | none => if isAllowed c then manyLines? quote fuel (c :: said) rest else none

/-- Reads a text of any kind. A line break right behind three quotes does not count. -/
def quote? : List Char → Option (String × List Char)
  | '\"' :: '\"' :: '\"' :: rest =>
    manyLines? '\"' (rest.length + 1) [] ((behindBreak? rest).getD rest)
  | '\'' :: '\'' :: '\'' :: rest =>
    manyLines? '\'' (rest.length + 1) [] ((behindBreak? rest).getD rest)
  | '\"' :: rest => basic? (rest.length + 1) [] rest
  | '\'' :: rest => literal? rest
  | _ => none

end WarehouseJobs.Toml
