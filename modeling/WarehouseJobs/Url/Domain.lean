-- Host names: letters in lower case, names in other scripts in their ASCII form, and no
-- character that has a meaning of its own in an address.
import WarehouseJobs.Text.Case
import WarehouseJobs.Text.Category
import WarehouseJobs.Url.Percent
import WarehouseJobs.Url.Punycode

namespace WarehouseJobs.Url

/-- Characters that may stand in no host name: they end a part of an address. -/
def endsPart (c : Char) : Bool :=
  ['\x00', '\t', '\n', '\r', ' ', '#', '/', ':', '<', '>', '?', '@', '[', '\\', ']', '^',
    '|'].contains c

/-- Characters that may stand in no domain. -/
def refusedInDomain (c : Char) : Bool :=
  endsPart c || c.toNat ≤ 0x20 || c.toNat = 0x7F || c = '%'

/-- The points of other scripts that separate labels too. -/
def isLabelPoint (c : Char) : Bool :=
  c = '.' || c.toNat = 0x3002 || c.toNat = 0xFF0E || c.toNat = 0xFF61

/-- Characters that stand for another one, or for none. -/
def plainLabelChar (c : Char) : List Char :=
  if isLabelPoint c then ['.']
  else if [0xAD, 0x200B, 0x2060, 0xFEFF].contains c.toNat then []
  else if 0xFF01 ≤ c.toNat ∧ c.toNat ≤ 0xFF5E then
    [Text.foldChar (Char.ofNat (c.toNat - 0xFF01 + 0x21))]
  else if c.toNat = 0x3C2 then [c]
  else if c.toNat = 0x1E9E then ['s', 's']
  else [Text.foldChar c]

/-- The ASCII form of one label. A label that claims to be such a form has to be one. -/
def label? (cs : List Char) : Option (List Char) :=
  if cs.all fun c => c.toNat < 128 then
    match Text.dropLead? ['x', 'n', '-', '-'] cs with
    | none => some cs
    | some coded =>
      match Punycode.decode? coded with
      | some plain =>
        if (plain.any fun c => 128 ≤ c.toNat) ∧ plain.all Text.showsAsItself ∧
            plain = plain.flatMap plainLabelChar ∧
            Punycode.encode plain = coded then
          some cs
        else none
      | none => none
  else some (['x', 'n', '-', '-'] ++ Punycode.encode cs)

/-- The ASCII form of a domain, or nothing if there is none. -/
def domain? (cs : List Char) : Option (List Char) :=
  let plain := cs.flatMap plainLabelChar
  if plain.any refusedInDomain then none
  else
    ((Text.splitAll '.' plain).mapM label?).map fun labels => ['.'].intercalate labels

end WarehouseJobs.Url
