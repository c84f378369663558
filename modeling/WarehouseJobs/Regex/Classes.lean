-- The classes of characters that have a name.
import WarehouseJobs.Regex.Pattern
import WarehouseJobs.Text.Case
import WarehouseJobs.Text.Script

namespace WarehouseJobs.Regex

open Text (Category categoryOf)

/-! ## Sets -/

def noChar : CharSet := fun _ => false

def single (c : Char) : CharSet := fun x => x = c

def between (first last : Char) : CharSet := fun x => first ≤ x && x ≤ last

def either (a b : CharSet) : CharSet := fun x => a x || b x

def both (a b : CharSet) : CharSet := fun x => a x && b x

def notIn (a : CharSet) : CharSet := fun x => !a x

/-- With all characters that differ only in case. -/
def anyCase (a : CharSet) : CharSet := fun x => (Text.caseVariants x).any a

/-- The same among the ASCII letters only. -/
def anyAsciiCase (a : CharSet) : CharSet := fun x => a x || a x.toLower || a x.toUpper

/-! ## Classes of one letter, and of ASCII -/

/-- `\d`, `\s` and `\w`, over all scripts or over ASCII. -/
def letterClass? (unicode : Bool) : Char → Option CharSet
  | 'd' => some (if unicode then Text.isDigitChar else Text.isAsciiDigit)
  | 's' => some (if unicode then Text.isBlankChar else fun c => Text.isAscii c && Text.isBlankChar c)
  | 'w' => some (if unicode then Text.isWordChar else fun c => Text.isAscii c && Text.isWordChar c)
  | _ => none

/-- The classes between `[:` and `:]`. -/
def asciiClass? (name : String) : Option CharSet :=
  match name with
  | "alnum" => some fun c => Text.isAsciiLetter c || Text.isAsciiDigit c
  | "alpha" => some Text.isAsciiLetter
  | "ascii" => some Text.isAscii
  | "blank" => some fun c => c = ' ' || c = '\t'
  | "cntrl" => some fun c => c.toNat < 0x20 || c.toNat = 0x7F
  | "digit" => some Text.isAsciiDigit
  | "graph" => some fun c => 0x21 ≤ c.toNat && c.toNat ≤ 0x7E
  | "lower" => some (between 'a' 'z')
  | "print" => some fun c => 0x20 ≤ c.toNat && c.toNat ≤ 0x7E
  | "punct" => some fun c =>
      0x21 ≤ c.toNat && c.toNat ≤ 0x7E && !Text.isAsciiLetter c && !Text.isAsciiDigit c
  | "space" => some fun c => c = ' ' || (9 ≤ c.toNat && c.toNat ≤ 13)
  | "upper" => some (between 'A' 'Z')
  | "word" => some fun c => Text.isAsciiLetter c || Text.isAsciiDigit c || c = '_'
  | "xdigit" => some fun c => Text.isAsciiDigit c || between 'a' 'f' c || between 'A' 'F' c
  | _ => none

/-! ## Classes by property -/

/-- A name without the differences that do not count: case, spaces, hyphens, underscores,
and the word `is` in front. -/
def plainName (s : String) : String :=
  let cs := s.toList
  let isPrefixed := (cs.take 2).map Char.toLower = ['i', 's']
  let plain := (if isPrefixed then cs.drop 2 else cs).filter fun c =>
    c ≠ ' ' && c ≠ '_' && c ≠ '-' && c.toNat < 128
  if isPrefixed && plain = ['c'] then "isc" else String.ofList (plain.map Char.toLower)

/-- The long names of the categories and of their groups. -/
def categoryNames : List (String × List String) :=
  [("l", ["letter"]), ("lu", ["uppercaseletter"]), ("ll", ["lowercaseletter"]),
    ("lt", ["titlecaseletter"]), ("lm", ["modifierletter"]), ("lo", ["otherletter"]),
    ("lc", ["casedletter"]), ("m", ["mark", "combiningmark"]), ("mn", ["nonspacingmark"]),
    ("mc", ["spacingmark"]), ("me", ["enclosingmark"]), ("n", ["number"]),
    ("nd", ["decimalnumber", "digit"]), ("nl", ["letternumber"]), ("no", ["othernumber"]),
    ("p", ["punctuation", "punct"]), ("pc", ["connectorpunctuation"]), ("pd", ["dashpunctuation"]),
    ("ps", ["openpunctuation"]), ("pe", ["closepunctuation"]), ("pi", ["initialpunctuation"]),
    ("pf", ["finalpunctuation"]), ("po", ["otherpunctuation"]), ("s", ["symbol"]),
    ("sm", ["mathsymbol"]), ("sc", ["currencysymbol"]), ("sk", ["modifiersymbol"]),
    ("so", ["othersymbol"]), ("z", ["separator"]), ("zs", ["spaceseparator"]),
    ("zl", ["lineseparator"]), ("zp", ["paragraphseparator"]), ("c", ["other"]),
    ("cc", ["control", "cntrl"]), ("cf", ["format"]), ("cs", ["surrogate"]), ("co", ["privateuse"]),
    ("cn", ["unassigned"])]

/-- The short name that a plain name stands for. -/
def shortName? (names : List (String × List String)) (name : String) : Option String :=
  (names.find? fun (short, long) =>
    plainName short = name || long.any fun l => plainName l = name).map Prod.fst

/-- The class of a category or of a group of them, by its plain name. -/
def categoryClass? (name : String) : Option CharSet :=
  if name = "any" then some fun _ => true
  else if name = "ascii" then some Text.isAscii
  else if name = "assigned" then some fun c => categoryOf c ≠ .cn
  else
    match shortName? categoryNames name with
    | none => none
    | some "lc" => some fun c => [Category.lu, .ll, .lt].contains (categoryOf c)
    | some short =>
      match short.toList with
      | [g] => some fun c => (categoryOf c).group = g.toUpper
      | _ => some fun c => (categoryOf c).name.toLower = short

def scriptClass? (name : String) : Option CharSet :=
  (shortName? Text.scriptEntries name).map fun short c => Text.scriptOf c = short

/-- A letter, or a sign that counts as one. -/
def isAlphabetic (c : Char) : Bool :=
  (categoryOf c).group = 'L' || categoryOf c = .nl || Text.isFramedLetter c

/-- Classes that are no categories. -/
def propertyClass? (name : String) : Option CharSet :=
  if name = "alphabetic" || name = "alpha" then some isAlphabetic
  else if name = "lowercase" || name = "lower" then some fun c => categoryOf c = .ll
  else if name = "uppercase" || name = "upper" then some fun c => categoryOf c = .lu
  else if name = "whitespace" || name = "wspace" || name = "space" then some Text.isBlankChar
  else if name = "asciihexdigit" || name = "ahex" then asciiClass? "xdigit"
  else if name = "hexdigit" || name = "hex" then
    some fun c => (asciiClass? "xdigit").any fun s => s c ||
      (0xFF10 ≤ c.toNat && c.toNat ≤ 0xFF5A && s (Char.ofNat (c.toNat - 0xFEE0)))
  else none

/-- A class by one name. -/
def namedClass? (given : String) : Option CharSet :=
  let name := plainName given
  let property := if ["cf", "sc", "lc"].contains name then none else propertyClass? name
  property.or ((categoryClass? name).or (scriptClass? name))

/-- A class by the name of a property and the value it has. -/
def valueClass? (property value : String) : Option CharSet :=
  let name := plainName property
  if name = "gc" || name = "generalcategory" then categoryClass? (plainName value)
  else if ["sc", "script", "scx", "scriptextensions"].contains name then
    scriptClass? (plainName value)
  else none

end WarehouseJobs.Regex
