-- The commands of this program with their options, and the command that a list of words asks
-- for. Two options may also come from the environment.
import WarehouseJobs.CommandLine.Options
import WarehouseJobs.Settings.Environment

namespace WarehouseJobs

/-! ## Commands -/

structure ExportArguments where
  project : Option String
  table : String
  destinations : List String
  noWait : Bool
deriving DecidableEq, Repr

structure StatusArguments where
  project : Option String
  jobId : String
  location : Option String
deriving DecidableEq, Repr

structure TableArguments where
  table : String
  schema : Bool
deriving DecidableEq, Repr

inductive Command where
  /-- Exports a table to object storage. -/
  | exportTable (args : ExportArguments)
  /-- Shows the current state of a job. -/
  | showStatus (args : StatusArguments)
  /-- Describes a table. -/
  | describeTable (args : TableArguments)
  /-- Only looks at the settings. -/
  | validateSettings
deriving DecidableEq, Repr

structure Invocation where
  /-- Where the settings are. -/
  settingsPath : String
  logLevel : Option String
  command : Command
deriving DecidableEq, Repr

/-! ## What the commands understand -/

namespace Invocation

def projectOption : OptionSpec :=
  { long := "project", short := some 'p', help := "Project (defaults to service.default_project)" }

def exportSpec : CommandSpec :=
  { name := "export"
    about := "Export a table to object storage"
    options :=
      [projectOption,
        { long := "table", short := some 't', required := true
          help := "Source table as project:dataset.table or project.dataset.table" },
        { long := "destination", short := some 'd', required := true, repeatable := true
          help := "Destination URI, e.g. gs://bucket/orders-*.json (repeatable)" },
        { long := "no-wait", takesValue := false
          help := "Return as soon as the job is accepted" }] }

def statusSpec : CommandSpec :=
  { name := "status"
    about := "Show the current state of a job"
    options :=
      [projectOption,
        { long := "job-id", short := some 'j', required := true, help := "Job ID to look up" },
        { long := "location", help := "Processing location (defaults to service.location)" }] }

def tableSpec : CommandSpec :=
  { name := "table"
    about := "Describe a table"
    options :=
      [{ long := "table", short := some 't', required := true
         help := "Table as project:dataset.table or project.dataset.table" },
        { long := "schema", takesValue := false, help := "Print the schema as well" }] }

def validateSpec : CommandSpec :=
  { name := "validate-config", about := "Validate configuration file", options := [] }

def specs : List CommandSpec := [exportSpec, statusSpec, tableSpec, validateSpec]

def settingsVariable : String := "JOBRELAY_CONFIG"

def logLevelVariable : String := "JOBRELAY_LOG_LEVEL"

def defaultSettingsPath : String := "jobrelay.toml"

def programSpec : CommandSpec :=
  { name := "jobrelay"
    about := "Submit and track remote warehouse jobs"
    options :=
      [{ long := "config", short := some 'c', help := "Path to configuration file" },
        { long := "log-level", short := some 'l'
          help := "Log level (trace, debug, info, warn, error)" }]
    subcommands :=
      (specs.map fun s => (s.name, s.about)) ++
        [(CommandSpec.helpName, "Print this message or the help of the given subcommand(s)")]
    hasVersion := true }

/-! ## Reading -/

def exportArguments (g : GivenOptions) : ExportArguments :=
  { project := g.value? "project"
    table := (g.value? "table").getD ""
    destinations := g.values "destination"
    noWait := g.has "no-wait" }

def statusArguments (g : GivenOptions) : StatusArguments :=
  { project := g.value? "project"
    jobId := (g.value? "job-id").getD ""
    location := g.value? "location" }

def tableArguments (g : GivenOptions) : TableArguments :=
  { table := (g.value? "table").getD "", schema := g.has "schema" }

/-- The command of a name, from the words behind it. -/
def commandOf (name : String) (words : List String) : Except UsageFault Command :=
  match name with
  | "export" => do return .exportTable (exportArguments (← exportSpec.readOptions words))
  | "status" => do return .showStatus (statusArguments (← statusSpec.readOptions words))
  | "table" => do return .describeTable (tableArguments (← tableSpec.readOptions words))
  | _ => do
    let _ ← validateSpec.readOptions words
    return .validateSettings

/-- Why there is no command. Whoever gave nothing at all may want help. -/
def withoutCommand (env : Environment) (g : GivenOptions) : UsageFault :=
  if g.isEmpty ∧ (env.get? settingsVariable).isNone ∧ (env.get? logLevelVariable).isNone then
    .nothingGiven
  else .missingSubcommand

/-- What the words behind the name of the program ask for. -/
def ofWords (env : Environment) (words : List String) : Except UsageFault Invocation := do
  let (g, subcommand) ← programSpec.read words
  match subcommand with
  | none => .error (withoutCommand env g)
  | some (name, rest) =>
    let command ← commandOf name rest
    return {
      settingsPath :=
        ((g.value? "config").orElse fun _ => env.get? settingsVariable).getD defaultSettingsPath
      logLevel := (g.value? "log-level").orElse fun _ => env.get? logLevelVariable
      command }

end Invocation
end WarehouseJobs
