-- The variables of the environment, and how settings texts refer to them: a name in upper
-- case between braces, behind a dollar sign.
import WarehouseJobs.Fault
import WarehouseJobs.Text.Split

namespace WarehouseJobs

/-- The variables that are set, with their values. -/
abbrev Environment := List (String × String)

def Environment.get? (e : Environment) (name : String) : Option String := e.lookup name

namespace Substitution

/-! ## Placeholders -/

def isNameStart (c : Char) : Bool := ('A' ≤ c && c ≤ 'Z') || c = '_'

def isNameChar (c : Char) : Bool := isNameStart c || ('0' ≤ c && c ≤ '9')

/-- The name of a placeholder, from what stands behind its opening brace. -/
def nameAt? (cs : List Char) : Option (List Char) :=
  let (name, rest) := cs.span isNameChar
  match name, rest with
  | first :: _, '\x7d' :: _ => if isNameStart first then some name else none
  | _, _ => none

/-- The names of all placeholders in a line, from left to right. A placeholder ends in front
of the next one, so none of its characters begins another. -/
def namesIn : List Char → List (List Char)
  | '$' :: '\x7b' :: rest =>
    match nameAt? rest with
    | some name => name :: namesIn rest
    | none => namesIn rest
  | _ :: rest => namesIn rest
  | [] => []

def placeholder (name : List Char) : List Char := '$' :: '\x7b' :: name ++ ['\x7d']

/-! ## Lines -/

/-- Comment lines are left alone. -/
def isComment (line : List Char) : Bool := (Text.trimLeft line).head? = some '#'

/-- Puts in the value of one variable, wherever its placeholder stands. -/
def putIn (env : Environment) (line name : List Char) : List Char :=
  match env.get? (String.ofList name) with
  | some value => Text.replaceAll (placeholder name) value.toList line
  | none => line

/-- A line with all values put in, one after the other. -/
def fill (env : Environment) (line : List Char) : List Char :=
  if isComment line then line else (namesIn line).foldl (putIn env) line

/-- The names in a line that no variable has. -/
def missingIn (env : Environment) (line : List Char) : List String :=
  if isComment line then []
  else ((namesIn line).map String.ofList).filter fun name => (env.get? name).isNone

/-- Each name once, where it first stands. -/
def once (names : List String) : List String :=
  names.foldl (fun seen name => if seen.contains name then seen else seen ++ [name]) []

/-- The names of all placeholders in a text that are looked up. -/
def names (text : String) : List String :=
  (Text.lines text.toList).flatMap fun line =>
    if isComment line then [] else (namesIn line).map String.ofList

/-- The text with all values put in. All missing variables are reported together. -/
def apply (env : Environment) (text : String) : Except ConfigurationFault String :=
  let lines := Text.lines text.toList
  let missing := once (lines.flatMap (missingIn env))
  if missing.isEmpty then
    .ok (String.ofList (lines.flatMap fun line => fill env line ++ ['\n']))
  else .error (.variablesMissing missing)

end Substitution
end WarehouseJobs
