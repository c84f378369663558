-- What each command does: what it asks of the service, what it tells, and the code it leaves
-- with.
import WarehouseJobs.CommandLine.Arguments
import WarehouseJobs.Decimal.Shortest
import WarehouseJobs.Export.Run
import WarehouseJobs.Http.Client
import WarehouseJobs.Inspection

namespace WarehouseJobs

/-! ## Exit codes -/

namespace ExitCode

def success : Nat := 0

/-- A job failed, or a table is not there. -/
def failed : Nat := 1

/-- The settings or the arguments cannot be used. -/
def configuration : Nat := 2

/-- Something that should not happen. -/
def fatal : Nat := 5

end ExitCode

namespace Http

def say (line : String) : Http Unit := locally (.say line)

def complain (line : String) : Http Unit := locally (.complain line)

def sayAll : List String → Http Unit
  | [] => .done ()
  | line :: lines => do
    say line
    sayAll lines

/-- Complains, and leaves with the code for unusable settings or arguments. -/
def refuse (line : String) : Http (Except Fault Nat) := do
  complain line
  pure (.ok ExitCode.configuration)

end Http

namespace Command

/-- The settings that were found, or why there are none. -/
abbrev Found := Except Fault Settings

/-- The project of the arguments, or else that of the settings. -/
def project (given : Option String) (s : Settings) : Except Fault ProjectId :=
  match given.orElse fun _ => s.service.defaultProject with
  | none => .error (.argument .noProject)
  | some text =>
    match ProjectId.ofText text with
    | .ok project => .ok project
    | .error fault => .error (.argument (.name fault))

def notLoaded (fault : Fault) : String := "Failed to load configuration: " ++ fault.message

/-! ## Exporting -/

namespace Export

def target : String := "jobrelay::cli::commands::export"

def startEvent : LogEvent := ⟨.info, target, "Starting export command", []⟩

def faultEvent (fault : Fault) (context : String) : LogEvent :=
  .failed target fault.message context

def lookEvent (looks : Nat) : LogEvent :=
  ⟨.debug, target, "Still waiting for export job", [("polls", .number looks)]⟩

/-- What is to be exported, by whom and to where. -/
structure Plan where
  project : ProjectId
  source : TableReference
  destinations : List Destination

/-- Reads the arguments; the first one that cannot be used is complained about. -/
def plan (args : ExportArguments) (s : Settings) : Except String Plan :=
  match Command.project args.project s with
  | .error fault => .error fault.message
  | .ok project =>
    match TableReference.ofText args.table with
    | .error fault => .error ("Invalid --table: " ++ fault.message)
    | .ok source =>
      match args.destinations.mapM Destination.ofText with
      | .error fault => .error ("Invalid --destination: " ++ fault.message)
      | .ok destinations => .ok { project, source, destinations }

def announcement (p : Plan) : String :=
  "Exporting " ++ p.source.shown ++ s!" to {p.destinations.length} destination(s)..."

def report (noWait : Bool) (handle : JobHandle) : String :=
  if noWait then
    "Submitted job " ++ handle.reference.shown ++ " (" ++ handle.state.name ++ ")"
  else "Export job " ++ handle.reference.shown ++ " finished: " ++ handle.state.name

/-- Carries out a plan, and tells about it. -/
def carryOut (client : Client) (e : Exporter) (p : Plan) (noWait : Bool) (rounds : Nat) :
    Http (Except Fault Nat) := do
  Http.say (announcement p)
  let work := e.run rounds p.project p.source p.destinations (!noWait) fun looks =>
    Work.log (lookEvent looks)
  match ← client.overHttp work with
  | .ok handle =>
    Http.say (report noWait handle)
    pure (.ok ExitCode.success)
  | .error fault =>
    Http.log (faultEvent fault "Export failed")
    Http.complain ("Export failed: " ++ fault.message)
    pure (.ok fault.exitCode)

def run (args : ExportArguments) (found : Found) (rounds : Nat) (builder : Client.Builder) :
    Http (Except Fault Nat) := do
  Http.log startEvent
  match found with
  | .error fault =>
    Http.log (faultEvent fault "Failed to load configuration")
    Http.refuse (notLoaded fault)
  | .ok s =>
    match plan args s with
    | .error why => Http.refuse why
    | .ok p =>
      match Client.build builder s.service with
      | .error fault => pure (.error fault)
      | .ok client =>
        match Exporter.ofSettings s with
        | .error fault => pure (.error fault)
        | .ok e => carryOut client e p args.noWait rounds

end Export

/-! ## The state of a job -/

namespace Status

def target : String := "jobrelay::cli::commands::status"

def faultEvent (fault : Fault) (reference : JobReference) : LogEvent :=
  ⟨.error, target, "Failed to fetch job status",
    [("error", .plain fault.message), ("job", .plain reference.shown)]⟩

/-- The job that is meant: a location of the arguments comes before that of the settings. -/
def reference (args : StatusArguments) (s : Settings) : Except String JobReference :=
  match Command.project args.project s with
  | .error fault => .error fault.message
  | .ok project =>
    match JobId.ofText args.jobId with
    | .error fault => .error ("Invalid --job-id: " ++ fault.message)
    | .ok id => .ok { project, id, location := args.location.orElse fun _ => s.service.location }

def timeLine (label : String) (t : Option Instant) : List String :=
  t.toList.map fun t => label ++ t.shownWithOffset

def timeLines (s : JobStatistics) : List String :=
  timeLine "Created:  " s.created ++ timeLine "Started:  " s.started ++
    timeLine "Ended:    " s.ended

def lines (h : JobHandle) : List String :=
  ["Job:   " ++ h.reference.shown] ++
  (h.reference.location.toList.map fun location => "Location: " ++ location) ++
  ["State: " ++ h.state.name] ++
  h.statistics.toList.flatMap timeLines ++
  (h.errorResult.toList.map fun detail => "Error: " ++ detail.shown) ++
  h.errors.map fun detail => "  - " ++ detail.shown

/-- Looks at a job, and tells about it. -/
def carryOut (client : Client) (reference : JobReference) : Http (Except Fault Nat) := do
  match ← client.overHttp (Waiting.fetchStatus reference.project reference) with
  | .ok handle =>
    Http.sayAll (lines handle)
    pure (.ok ExitCode.success)
  | .error fault =>
    Http.log (faultEvent fault reference)
    Http.complain ("Failed to fetch job status: " ++ fault.message)
    pure (.ok fault.exitCode)

def run (args : StatusArguments) (found : Found) (builder : Client.Builder) :
    Http (Except Fault Nat) :=
  match found with
  | .error fault => Http.refuse (notLoaded fault)
  | .ok s =>
    match reference args s with
    | .error why => Http.refuse why
    | .ok reference =>
      match Client.build builder s.service with
      | .error fault => pure (.error fault)
      | .ok client => carryOut client reference

end Status

/-! ## Tables -/

namespace Describe

/-- Whether a fault says that the table is not there. -/
def isMissing : Fault → Bool
  | .remote fault => fault.verdict = .notFound
  | _ => false

/-- Looks at a table, and tells about it. -/
def carryOut (client : Client) (reference : TableReference) (withSchema : Bool) :
    Http (Except Fault Nat) := do
  match ← client.overHttp (Inspection.getTable reference) with
  | .ok table =>
    Http.sayAll (Inspection.lines withSchema table)
    pure (.ok ExitCode.success)
  | .error fault =>
    if isMissing fault then
      Http.say ("Table " ++ reference.shown ++ " does not exist")
      pure (.ok ExitCode.failed)
    else
      Http.complain ("Failed to fetch table: " ++ fault.message)
      pure (.ok fault.exitCode)

def run (args : TableArguments) (found : Found) (builder : Client.Builder) :
    Http (Except Fault Nat) :=
  match found with
  | .error fault => Http.refuse (notLoaded fault)
  | .ok s =>
    match TableReference.ofText args.table with
    | .error fault => Http.refuse ("Invalid --table: " ++ fault.message)
    | .ok reference =>
      match Client.build builder s.service with
      | .error fault => pure (.error fault)
      | .ok client => carryOut client reference args.schema

end Describe

/-! ## Settings -/

namespace Validate

def target : String := "jobrelay::cli::commands::validate"

def startEvent (path : String) : LogEvent :=
  ⟨.info, target, "Validating configuration", [("config_path", .plain path)]⟩

def tokenState : Option Secret → String
  | some token => if token.isEmpty then "not set" else "set"
  | none => "not set"

def pollingShown (p : PollingSettings) : String :=
  s!"{p.initialIntervalMs.toNat}ms..{p.maxIntervalMs.toNat}ms x" ++
    Decimal.positional p.backoffMultiplier ++
    s!" (max {p.maxTransientErrors.toNat} transient errors)"

def summary (s : Settings) : List String :=
  ["Configuration is valid",
    "",
    "Configuration Summary:",
    "  Log Level: " ++ s.application.logLevel,
    "  Service: " ++ s.service.baseUrl,
    "  Access Token: " ++ tokenState s.service.accessToken,
    "  Default Project: " ++ s.service.defaultProject.getD "(none)",
    "  Location: " ++ s.service.location.getD "(service default)",
    "  Job ID Pattern: " ++ s.jobs.idPattern,
    "  Export Prefix: " ++ s.jobs.exportPrefix,
    "  Destination Format: " ++ s.jobs.destinationFormat.name,
    "  Polling: " ++ pollingShown s.polling,
    ""]

def run (path : String) (found : Found) : Http (Except Fault Nat) := do
  Http.log (startEvent path)
  Http.sayAll ["Validating configuration file: " ++ path, ""]
  match found with
  | .error fault =>
    Http.sayAll ["Configuration is invalid", "   Error: " ++ fault.message]
    pure (.ok ExitCode.configuration)
  | .ok s =>
    Http.sayAll (summary s)
    pure (.ok ExitCode.success)

end Validate

/-! ## All commands -/

/-- Carries out a command and gives the exit code, or passes on a fault that it does not deal with.
`found` are the settings at `path`, and `rounds` bounds how often a job is looked at. -/
def run (c : Command) (path : String) (found : Found) (rounds : Nat)
    (builder : Client.Builder := .ready) : Http (Except Fault Nat) :=
  match c with
  | .exportTable args => Export.run args found rounds builder
  | .showStatus args => Status.run args found builder
  | .describeTable args => Describe.run args found builder
  | .validateSettings => Validate.run path found

end Command
end WarehouseJobs
