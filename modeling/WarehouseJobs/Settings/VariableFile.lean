-- A file with variables that join the environment: a name, an equals sign and a value on each
-- line. Values may stand in quotes and refer to variables before them. Variables that are set
-- already stay as they are.
import WarehouseJobs.Settings.Environment
import WarehouseJobs.Text.Category

namespace WarehouseJobs.VariableFile

/-! ## Lines -/

/-- Where in a line we are. -/
inductive Place where
  | plain
  | escaped
  /-- Behind a blank, where a comment may begin. -/
  | gap
  | strong
  | strongEscaped
  | weak
  | weakEscaped
deriving DecidableEq, Repr

def Place.after (p : Place) (c : Char) : Place :=
  match p with
  | .plain =>
    if Text.isBlankChar c && c ≠ '\n' && c ≠ '\r' then .gap
    else if c = '\\' then .escaped
    else if c = '\"' then .weak
    else if c = '\'' then .strong
    else .plain
  | .gap =>
    if c = '\\' then .escaped
    else if c = '\"' then .weak
    else if c = '\'' then .strong
    else .plain
  | .escaped => .plain
  | .weak => if c = '\\' then .weakEscaped else if c = '\"' then .plain else .weak
  | .weakEscaped => .weak
  | .strong => if c = '\\' then .strongEscaped else if c = '\'' then .plain else .strong
  | .strongEscaped => .strong

/-- Where a line ends; or, if a comment begins in it, what stands in front of the comment. -/
def placeAfter (p : Place) : List Char → Except (List Char) Place
  | [] => .ok p
  | c :: cs =>
    if p = .gap ∧ c = '#' then .error []
    else
      match placeAfter (p.after c) cs with
      | .ok q => .ok q
      | .error before => .error (c :: before)

/-- The pieces of a text that each end with a line feed, and the last one. -/
def withLineFeeds : List Char → List (List Char)
  | [] => []
  | c :: cs =>
    if c = '\n' then [c] :: withLineFeeds cs
    else
      match withLineFeeds cs with
      | [] => [[c]]
      | piece :: pieces => (c :: piece) :: pieces

def dropLineEnd (line : List Char) : List Char :=
  match line.reverse with
  | '\n' :: '\r' :: before => before.reverse
  | '\n' :: before => before.reverse
  | _ => line

/-- Puts the pieces of values together that go on over line ends. The last element is none if
the text ends too early. -/
def entriesFrom (p : Place) (before : List Char) : List (List Char) → List (Option (List Char))
  | [] => if p = .plain then [] else [none]
  | piece :: pieces =>
    let line := before ++ piece
    if (Text.trimLeft line).head? = some '#' then some [] :: entriesFrom .plain [] pieces
    else
      match placeAfter p piece with
      | .error kept => some (before ++ kept) :: entriesFrom .plain [] pieces
      | .ok .plain => some (dropLineEnd line) :: entriesFrom .plain [] pieces
      | .ok q => entriesFrom q line pieces

/-! ## Values -/

/-- What the next character of a value is part of. -/
inductive Part where
  | text
  | escape
  /-- Between single quotes, where every character stands for itself. -/
  | strong
  /-- Behind the value, where only a comment may follow. -/
  | ending
  | name
  | bracedName
deriving DecidableEq, Repr

def isNameLetter (c : Char) : Bool :=
  if Text.isAscii c then c.isAlphanum
  else (Text.categoryOf c).group = 'L' || (Text.categoryOf c).group = 'N'

/-- The character that an escape stands for. -/
def unescaped? (c : Char) : Option Char :=
  if ['\\', '\'', '\"', '$', ' '].contains c then some c else if c = 'n' then some '\n' else none

/-- Reads a value. `weak` tells whether we are between double quotes, `name` holds the name of
a variable so far, and `value` gives the values of variables. -/
def readValue (value : String → List Char) (part : Part) (weak : Bool) (name : List Char) :
    List Char → Option (List Char)
  | [] =>
    if weak ∨ part = .strong ∨ part = .bracedName then none else some (value (String.ofList name))
  | c :: cs =>
    match part with
    | .ending =>
      if c = ' ' ∨ c = '\t' then readValue value .ending weak name cs
      else if c = '#' then some []
      else none
    | .escape => do
      let meant ← unescaped? c
      return meant :: (← readValue value .text weak name cs)
    | .strong =>
      if c = '\'' then readValue value .text weak name cs
      else do return c :: (← readValue value .strong weak name cs)
    | .name =>
      if isNameLetter c then readValue value .name weak (name ++ [c]) cs
      else if c = '\x7b' ∧ name = [] then readValue value .bracedName weak [] cs
      else do
        let found := value (String.ofList name)
        if c = '$' then return found ++ (← readValue value .name weak [] cs)
        else return found ++ c :: (← readValue value .text weak [] cs)
    | .bracedName =>
      if c = '\x7d' then do
        return value (String.ofList name) ++ (← readValue value .text weak [] cs)
      else readValue value .bracedName weak (name ++ [c]) cs
    | .text =>
      if c = '$' then readValue value .name weak [] cs
      else if c = '\"' then readValue value .text (!weak) name cs
      else if c = '\\' then readValue value .escape weak name cs
      else if weak then do return c :: (← readValue value .text weak name cs)
      else if c = '\'' then readValue value .strong weak name cs
      else if c = ' ' ∨ c = '\t' then readValue value .ending weak name cs
      else do return c :: (← readValue value .text weak name cs)

/-! ## Entries -/

def isKeyStart (c : Char) : Bool := Text.isAsciiLetter c || c = '_'

def isKeyChar (c : Char) : Bool := isKeyStart c || Text.isAsciiDigit c || c = '.'

/-- The name at the start of a text, and what follows it and the blanks behind it. -/
def key? (cs : List Char) : Option (List Char × List Char) :=
  match cs with
  | c :: _ =>
    if isKeyStart c then
      let (key, rest) := cs.span isKeyChar
      some (key, Text.trimLeft rest)
    else none
  | [] => none

def behindEquals? : List Char → Option (List Char)
  | '=' :: rest => some rest
  | _ => none

/-- The name and the text of the value of an entry. The word `export` may stand in front of a
name, or be one. -/
def split? (cs : List Char) : Option (List Char × List Char) := do
  let (key, rest) ← key? cs
  match behindEquals? rest with
  | some text => return (key, Text.trimLeft text)
  | none =>
    if String.ofList key = "export" then
      let (key, rest) ← key? rest
      return (key, Text.trimLeft (← behindEquals? rest))
    else none

/-- The variables so far: those of the environment, and all that the file has told. -/
structure Known where
  environment : Environment
  told : List (String × String) := []

def Known.value (k : Known) (name : String) : List Char :=
  ((k.environment.get? name).getD ((k.told.lookup name).getD "")).toList

/-- A variable that is set already stays as it is. -/
def Known.add (k : Known) (name value : String) : Known :=
  { environment :=
      if (k.environment.get? name).isSome then k.environment else k.environment ++ [(name, value)]
    told := (name, value) :: k.told }

/-- Takes in one entry. -/
def Known.take? (k : Known) (entry : List Char) : Option Known :=
  let cs := Text.trim entry
  if cs.isEmpty ∨ cs.head? = some '#' then some k
  else do
    let (key, text) ← split? cs
    let value ←
      if text.isEmpty ∨ text.head? = some '#' then some []
      else readValue k.value .text false [] text
    return k.add (String.ofList key) (String.ofList value)

/-- Takes in entries up to the first one that is malformed. -/
def Known.takeAll (k : Known) : List (Option (List Char)) → Known
  | some entry :: entries =>
    match k.take? entry with
    | some k => k.takeAll entries
    | none => k
  | _ => k

/-- The environment with the variables of a file. -/
def extend (env : Environment) (text : String) : Environment :=
  let cs := match text.toList with
    | '\uFEFF' :: rest => rest
    | cs => cs
  (Known.takeAll { environment := env } (entriesFrom .plain [] (withLineFeeds cs))).environment

/-- All words of a text that may be names of variables. -/
def words (text : String) : List String :=
  ((Text.splitAll ' ' (text.toList.map fun c => if isKeyChar c then c else ' ')).filter
    fun word => !word.isEmpty).map String.ofList

end WarehouseJobs.VariableFile
