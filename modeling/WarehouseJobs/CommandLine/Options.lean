-- Options on a command line: what a command understands, and which options a list of words
-- gives. Reading ends at the name of a subcommand; what follows belongs to it.
import WarehouseJobs.Text.Split

namespace WarehouseJobs

/-! ## What a command understands -/

structure OptionSpec where
  /-- Without its two dashes. -/
  long : String
  short : Option Char := none
  takesValue : Bool := true
  /-- May be given more than once. -/
  repeatable : Bool := false
  required : Bool := false
  help : String := ""
deriving DecidableEq, Repr

structure CommandSpec where
  name : String
  about : String
  options : List OptionSpec
  subcommands : List (String × String) := []
  /-- Whether the version can be asked for. -/
  hasVersion : Bool := false
deriving DecidableEq, Repr

/-! ## What may be wrong -/

/-- Why a command line is not carried out. -/
inductive UsageFault where
  | missingOptions (names : List String)
  | unknownWord (word : String)
  | unknownSubcommand (word : String)
  | missingSubcommand
  /-- An option that takes none was given a value. -/
  | needlessValue (name : String)
  | missingValue (name : String)
  | repeated (name : String)
  /-- Help was asked for. -/
  | help (command : String)
  /-- Nothing was given at all. -/
  | nothingGiven
  | version
deriving DecidableEq, Repr

namespace UsageFault

/-- Help and version are no failures. -/
def exitCode : UsageFault → Nat
  | .help _ => 0
  | .version => 0
  | _ => 2

def message : UsageFault → String
  | .missingOptions names =>
    "error: the following required arguments were not provided: " ++ ", ".intercalate names
  | .unknownWord word => "error: unexpected argument '" ++ word ++ "' found"
  | .unknownSubcommand word => "error: unrecognized subcommand '" ++ word ++ "'"
  | .missingSubcommand => "error: a subcommand is required but one was not provided"
  | .needlessValue name => "error: unexpected value for '--" ++ name ++ "' found"
  | .missingValue name => "error: a value is required for '--" ++ name ++ "' but none was supplied"
  | .repeated name => "error: the argument '--" ++ name ++ "' cannot be used multiple times"
  | .help _ => ""
  | .nothingGiven => ""
  | .version => ""

end UsageFault

/-! ## Options that were given -/

/-- The options so far, each with the value it was given; a flag has none. -/
abbrev GivenOptions := List (String × Option String)

namespace GivenOptions

def has (g : GivenOptions) (name : String) : Bool := g.any fun (n, _) => n = name

/-- All values of an option, in order. -/
def values (g : GivenOptions) (name : String) : List String :=
  g.filterMap fun (n, value) => if n = name then value else none

def value? (g : GivenOptions) (name : String) : Option String := (g.values name).head?

/-- Takes in one option. Most may be given only once. -/
def add (g : GivenOptions) (o : OptionSpec) (value : Option String) :
    Except UsageFault GivenOptions :=
  if g.has o.long ∧ !o.repeatable then .error (.repeated o.long) else .ok (g ++ [(o.long, value)])

end GivenOptions

/-! ## Words -/

/-- A word as an option in its long form: the name, and the value behind an equals sign. -/
def longForm? (word : String) : Option (String × Option String) :=
  match word.toList with
  | '-' :: '-' :: c :: rest =>
    match Text.splitFirst '=' (c :: rest) with
    | some (name, value) => some (String.ofList name, some (String.ofList value))
    | none => some (String.ofList (c :: rest), none)
  | _ => none

/-- A word as a group of options in their short forms. -/
def shortForms? (word : String) : Option (List Char) :=
  match word.toList with
  | '-' :: c :: rest => if c = '-' then none else some (c :: rest)
  | _ => none

namespace CommandSpec

/-! ## Reading -/

/-- The options that are always understood, and the command's own. -/
def allOptions (c : CommandSpec) : List OptionSpec :=
  c.options ++ [{ long := "help", short := some 'h', takesValue := false, help := "Print help" }] ++
    if c.hasVersion then
      [{ long := "version", short := some 'V', takesValue := false, help := "Print version" }]
    else []

def long? (c : CommandSpec) (name : String) : Option OptionSpec :=
  c.allOptions.find? fun o => o.long = name

def short? (c : CommandSpec) (letter : Char) : Option OptionSpec :=
  c.allOptions.find? fun o => o.short = some letter

/-- An option that still waits for its value gets none any more. -/
def settle : Option OptionSpec → Except UsageFault Unit
  | none => .ok ()
  | some o => .error (.missingValue o.long)

/-- Takes in a flag. Help and version end everything. -/
def takeFlag (c : CommandSpec) (g : GivenOptions) (o : OptionSpec) : Except UsageFault GivenOptions :=
  if o.long = "help" then .error (.help c.name)
  else if o.long = "version" then .error .version
  else g.add o none

/-- What an option makes of its value: the options so far, and the option if it waits for a
value in the next word. -/
abbrev AfterOption := GivenOptions × Option OptionSpec

def takeLong (c : CommandSpec) (pending : Option OptionSpec) (g : GivenOptions) (word name : String)
    (value : Option String) : Except UsageFault AfterOption :=
  match c.long? name, value with
  | none, _ => .error (.unknownWord word)
  | some o, some value =>
    if o.takesValue then do
      settle pending
      return (← g.add o (some value), none)
    else .error (.needlessValue o.long)
  | some o, none => do
    settle pending
    if o.takesValue then return (g, some o) else return (← c.takeFlag g o, none)

/-- The value that is attached to an option in its short form. -/
def attached? : List Char → Option String
  | [] => none
  | '=' :: value => some (String.ofList value)
  | value => some (String.ofList value)

def takeShort (c : CommandSpec) (pending : Option OptionSpec) (g : GivenOptions) :
    List Char → Except UsageFault AfterOption
  | [] => .ok (g, none)
  | letter :: rest =>
    match c.short? letter with
    | none => .error (.unknownWord (String.ofList ['-', letter]))
    | some o => do
      settle pending
      if o.takesValue then
        match attached? rest with
        | some value => return (← g.add o (some value), none)
        | none => return (g, some o)
      else takeShort c none (← c.takeFlag g o) rest

/-- A word that is no option and no value. -/
def stray (c : CommandSpec) (word : String) : UsageFault :=
  if c.subcommands.isEmpty then .unknownWord word else .unknownSubcommand word

/-- A word behind two dashes, where no subcommand counts any more. -/
def strayBehindDashes (c : CommandSpec) (word : String) : UsageFault :=
  if (c.subcommands.lookup word).isSome then .unknownWord word else c.stray word

/-- The name of a subcommand, and the words for it. -/
abbrev Subcommand := String × List String

def helpName : String := "help"

/-- Help about the named subcommands, one below the other. -/
def helpAbout (c : CommandSpec) : List String → UsageFault
  | [] => .help c.name
  | [name] => if (c.subcommands.lookup name).isSome then .help name else .unknownSubcommand name
  | name :: word :: _ =>
    if (c.subcommands.lookup name).isSome then .unknownSubcommand word
    else .unknownSubcommand name

/-- Reads words up to the name of a subcommand. -/
def readFrom (c : CommandSpec) (pending : Option OptionSpec) (g : GivenOptions) :
    List String → Except UsageFault (GivenOptions × Option Subcommand)
  | [] => do
    settle pending
    return (g, none)
  | word :: words =>
    if pending.isNone ∧ (c.subcommands.lookup word).isSome then
      if word = helpName then .error (c.helpAbout words) else .ok (g, some (word, words))
    else if word = "--" then
      match words with
      | [] => do
        settle pending
        return (g, none)
      | next :: _ => .error (c.strayBehindDashes next)
    else
      match longForm? word, shortForms? word, pending with
      | some (name, value), _, _ => do
        let (g, pending) ← c.takeLong pending g word name value
        readFrom c pending g words
      | none, some letters, _ => do
        let (g, pending) ← c.takeShort pending g letters
        readFrom c pending g words
      | none, none, some o => do
        readFrom c none (← g.add o (some word)) words
      | none, none, none => .error (c.stray word)

def read (c : CommandSpec) (words : List String) :
    Except UsageFault (GivenOptions × Option Subcommand) :=
  c.readFrom none [] words

/-- All required options must be there. -/
def checkRequired (c : CommandSpec) (g : GivenOptions) : Except UsageFault Unit :=
  let missing := (c.options.filter fun o => o.required && !g.has o.long).map OptionSpec.long
  if missing.isEmpty then .ok () else .error (.missingOptions missing)

/-- The options of a command without subcommands. -/
def readOptions (c : CommandSpec) (words : List String) : Except UsageFault GivenOptions := do
  let (g, _) ← c.read words
  c.checkRequired g
  return g

end CommandSpec
end WarehouseJobs
