-- What a person is told who asks for help, or whose command line cannot be carried out.
import WarehouseJobs.CommandLine.Arguments

namespace WarehouseJobs.Help

/-! ## One command -/

/-- An option as it is written, with a name for its value. -/
def written (o : OptionSpec) : String :=
  let short := match o.short with
    | some letter => String.ofList ['-', letter] ++ ", "
    | none => "    "
  let value := if o.takesValue then " <" ++ o.long.toUpper.replace "-" "_" ++ ">" else ""
  short ++ "--" ++ o.long ++ value

def padded (width : Nat) (s : String) : String :=
  s ++ String.ofList (List.replicate (width - s.length) ' ')

/-- Lines of two columns. -/
def columns (rows : List (String × String)) : List String :=
  let width := ((rows.map fun (left, _) => left.length).max?).getD 0
  rows.map fun (left, right) => "  " ++ padded width left ++ "  " ++ right

/-- How a command is called. -/
def usage (path : String) (c : CommandSpec) : String :=
  let required := (c.options.filter OptionSpec.required).map fun o =>
    " --" ++ o.long ++ " <" ++ o.long.toUpper.replace "-" "_" ++ ">"
  "Usage: " ++ path ++ " [OPTIONS]" ++ String.join required ++
    if c.subcommands.isEmpty then "" else " <COMMAND>"

def ofCommand (path : String) (c : CommandSpec) : List String :=
  [c.about, "", usage path c, ""] ++
  (if c.subcommands.isEmpty then [] else "Commands:" :: columns c.subcommands ++ [""]) ++
  "Options:" :: columns (c.allOptions.map fun o => (written o, o.help))

/-! ## The program -/

/-- The help of a command by its name; of the whole program, if there is no such command. -/
def lines (name : String) : List String :=
  match Invocation.specs.find? fun c => c.name = name with
  | some c => ofCommand (Invocation.programSpec.name ++ " " ++ c.name) c
  | none => ofCommand Invocation.programSpec.name Invocation.programSpec

/-- What is written on the standard output, and what on the standard error. -/
def ofFault (version : String) (fault : UsageFault) : List String × List String :=
  match fault with
  | .help name => (lines name, [])
  | .version => ([Invocation.programSpec.name ++ " " ++ version], [])
  | .nothingGiven => ([], lines Invocation.programSpec.name)
  | _ =>
    ([], [fault.message, "", usage Invocation.programSpec.name Invocation.programSpec, "",
      "For more information, try '--help'."])

end WarehouseJobs.Help
