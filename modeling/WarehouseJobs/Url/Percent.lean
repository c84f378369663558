-- Percent encoding: what may not stand in a part of an address is written byte by byte, each
-- as a percent sign and two hexadecimal digits.
import WarehouseJobs.Text.Split
import WarehouseJobs.Text.Whole

namespace WarehouseJobs.Url

open Text (hexValue?)

def upperHex (n : Nat) : Char := (Nat.digitChar n).toUpper

def percentByte (b : UInt8) : List Char :=
  ['%', upperHex (b.toNat / 16), upperHex (b.toNat % 16)]

/-- A character as it stands in a part of an address, where `kept` tells what may stand. -/
def encodeChar (kept : Char → Bool) (c : Char) : List Char :=
  if kept c then [c] else (String.utf8EncodeChar c).flatMap percentByte

def encode (kept : Char → Bool) (cs : List Char) : List Char := cs.flatMap (encodeChar kept)

/-! ## What may stand where -/

/-- Printed ASCII characters and the space. -/
def isPlain (c : Char) : Bool := 0x20 ≤ c.toNat && c.toNat < 0x7F

def isAlphanumeric (c : Char) : Bool :=
  ('a' ≤ c && c ≤ 'z') || ('A' ≤ c && c ≤ 'Z') || ('0' ≤ c && c ≤ '9')

def keptInPath (c : Char) : Bool :=
  isPlain c &&
    !([' ', '\"', '<', '>', Char.ofNat 0x60, '#', '?', '\x7b', '\x7d'].contains c)

def keptInQuery (c : Char) : Bool := isPlain c && !([' ', '\"', '<', '>', '#', '\''].contains c)

def keptInForm (c : Char) : Bool := isAlphanumeric c || ['*', '-', '.', '_'].contains c

/-- The value of a form field. A space is written as a plus sign. -/
def encodeForm (cs : List Char) : List Char :=
  cs.flatMap fun c => if c = ' ' then ['+'] else encodeChar keptInForm c

/-! ## Reading -/

/-- The bytes that a text stands for. A percent sign without two digits is itself. -/
def decodeBytes : List Char → List UInt8
  | [] => []
  | '%' :: a :: b :: rest =>
    match hexValue? a, hexValue? b with
    | some x, some y => UInt8.ofNat (x * 16 + y) :: decodeBytes rest
    | _, _ => String.utf8EncodeChar '%' ++ decodeBytes (a :: b :: rest)
  | c :: rest => String.utf8EncodeChar c ++ decodeBytes rest

/-- The text behind its percent encoding, if its bytes are the bytes of a text. -/
def decode? (cs : List Char) : Option (List Char) :=
  (String.fromUTF8? (decodeBytes cs).toByteArray).map String.toList

end WarehouseJobs.Url
