-- Writing a JSON value on one line without spaces. Only quotes, backslashes and control
-- characters are escaped.
import WarehouseJobs.Json.Value
import WarehouseJobs.Decimal.Shortest

namespace WarehouseJobs.Json

def hexDigit (n : Nat) : Char := (Nat.digitChar n).toLower

def escapeChar (c : Char) : List Char :=
  if c = '\"' then ['\\', '\"']
  else if c = '\\' then ['\\', '\\']
  else if c = '\x08' then ['\\', 'b']
  else if c = '\x0c' then ['\\', 'f']
  else if c = '\n' then ['\\', 'n']
  else if c = '\r' then ['\\', 'r']
  else if c = '\t' then ['\\', 't']
  else if c.toNat < 0x20 then
    ['\\', 'u', '0', '0', hexDigit (c.toNat / 16), hexDigit (c.toNat % 16)]
  else [c]

def quote (s : String) : String :=
  "\"" ++ String.ofList (s.toList.flatMap escapeChar) ++ "\""

/-- A double that JSON has no number for is written as nothing. -/
def Number.write : Number → String
  | .whole i => toString i
  | .real negative digits exponent => Decimal.exponential negative digits exponent
  | .double x =>
    match Decimal.ofFloat? x with
    | some (negative, digits, exponent) => Decimal.exponential negative digits exponent
    | none => "null"

mutual

def write : Json → String
  | .null => "null"
  | .bool b => if b then "true" else "false"
  | .number n => n.write
  | .text s => quote s
  | .list items => "[" ++ writeItems items ++ "]"
  | .record fields => "\x7b" ++ writeFields fields ++ "\x7d"
  | .unreadable => "null"

def writeItems : List Json → String
  | [] => ""
  | [j] => write j
  | j :: js => write j ++ "," ++ writeItems js

def writeFields : List (String × Json) → String
  | [] => ""
  | [(name, j)] => quote name ++ ":" ++ write j
  | (name, j) :: fs => quote name ++ ":" ++ write j ++ "," ++ writeFields fs

end

end WarehouseJobs.Json
