-- What can go wrong, as causes. A fault of the service is classified once, together with the
-- stage it came up in; everything above looks at the class and never at status numbers.
import WarehouseJobs.Identity

namespace WarehouseJobs

/-! ## Faults of the service -/

/-- What the service, or the way to it, answered instead of a result. -/
structure RemoteFault where
  /-- The HTTP status; none if no answer arrived. -/
  status : Option UInt16
  /-- The reason the service gave, such as `notFound` or `duplicate`. -/
  reason : Option String
  message : String
deriving DecidableEq, Repr

namespace RemoteFault

def ofStatus (status : UInt16) (message : String) : RemoteFault := ⟨some status, none, message⟩

/-- No answer arrived. -/
def ofTransport (message : String) : RemoteFault := ⟨none, none, message⟩

/-- An answer arrived, but it is not what was asked for. -/
def invalidResponse (status : UInt16) (message : String) : RemoteFault :=
  ⟨some status, some "invalidResponse", message⟩

def shown (f : RemoteFault) : String :=
  match f.status, f.reason with
  | some status, some reason => s!"{status.toNat} [{reason}] {f.message}"
  | some status, none => s!"{status.toNat} {f.message}"
  | none, some reason => s!"[{reason}] {f.message}"
  | none, none => "transport: " ++ f.message

end RemoteFault

inductive FaultClass where
  | notFound
  | alreadyExists
  /-- Worth another try: the service is busy or the connection broke. -/
  | transient
  | fatal
deriving DecidableEq, Repr

def FaultClass.name : FaultClass → String
  | .notFound => "not-found"
  | .alreadyExists => "already-exists"
  | .transient => "transient"
  | .fatal => "fatal"

/-- Where in the life of a job a fault came up. -/
inductive Stage where
  /-- The job was being created, or its duplicate looked up. -/
  | submission
  /-- The state of an accepted job was asked for. -/
  | polling
  /-- The job itself ended with an error. -/
  | execution
  /-- Something that is no job was looked at. -/
  | inspection
deriving DecidableEq, Repr

def Stage.name : Stage → String
  | .submission => "submission"
  | .polling => "polling"
  | .execution => "execution"
  | .inspection => "inspection"

structure StagedFault where
  verdict : FaultClass
  stage : Stage
  cause : RemoteFault
deriving DecidableEq, Repr

def StagedFault.shown (f : StagedFault) : String :=
  s!"{f.verdict.name} failure during {f.stage.name}: {f.cause.shown}"

/-! ## Classes -/

namespace RemoteFault

/-- Statuses that say the service is busy or broken for the moment. -/
def busyStatuses : List UInt16 := [408, 429, 500, 502, 503, 504]

def missingReasons : List String := ["notFound"]

def duplicateReasons : List String := ["duplicate", "alreadyExists"]

def busyReasons : List String :=
  ["rateLimitExceeded", "backendError", "internalError", "jobBackendError", "jobInternalError"]

/-- Without a status, or with one that only says that the request was refused, the reason
has to tell what is meant. -/
def isGeneric : Option UInt16 → Bool
  | none => true
  | some s => s == 400 || s == 403

/-- What a reason says beside a status that decided nothing. -/
def classOfReason (status : Option UInt16) (reason : String) : FaultClass :=
  if missingReasons.contains reason && isGeneric status then .notFound
  else if duplicateReasons.contains reason && isGeneric status then .alreadyExists
  else if busyReasons.contains reason then .transient
  else .fatal

/-- The class of a fault. A status that decides comes first; the message never counts. -/
def classify (f : RemoteFault) : FaultClass :=
  match f.status, f.reason with
  | some s, reason =>
    if s = 404 then .notFound
    else if s = 409 then .alreadyExists
    else if busyStatuses.contains s then .transient
    else (reason.map (classOfReason (some s))).getD .fatal
  | none, none => .transient
  | none, some reason => classOfReason none reason

def during (f : RemoteFault) (stage : Stage) : StagedFault := ⟨f.classify, stage, f⟩

end RemoteFault

/-! ## All faults -/

/-- Why a request is refused before it reaches the service. -/
inductive ArgumentFault where
  | name (fault : NameFault)
  | missingJobId
  | noDestination
  | noProject
  | emptyIdPrefix
  | prefixMismatch (idPrefix : String) (pattern : String)
  | idTooLong (id : String) (length : Nat) (limit : Nat)
  | idMismatch (id : String) (pattern : String)
  | stated (why : String)
deriving DecidableEq, Repr

def ArgumentFault.message : ArgumentFault → String
  | .name fault => fault.message
  | .missingJobId => "job must carry a job id before submission"
  | .noDestination => "at least one destination URI is required"
  | .noProject => "no project given: pass --project or set service.default_project"
  | .emptyIdPrefix => "job id prefix must not be empty"
  | .prefixMismatch idPrefix pattern =>
    "job id prefix '" ++ idPrefix ++ "' must match pattern '" ++ pattern ++ "'"
  | .idTooLong id length limit =>
    "job id '" ++ id ++ s!"' has length {length}; must be less than or equal to {limit}"
  | .idMismatch id pattern =>
    "generated job id '" ++ id ++ "' does not match pattern '" ++ pattern ++ "'"
  | .stated why => why

/-- Why there is no usable configuration. -/
inductive ConfigurationFault where
  | fileMissing (path : String)
  | fileUnreadable (path : String) (why : String)
  | variablesMissing (names : List String)
  | malformed (why : String)
  | badOverride (value : String) (name : String)
  | unknownFormat (given : String)
  | invalid (why : String)
  | badPattern (pattern : String) (why : String)
  | unknownLevel (given : String)
  | noLogDirectory (path : String) (why : String)
  | noHttpClient (why : String)
  | stated (why : String)
deriving DecidableEq, Repr

def ConfigurationFault.message : ConfigurationFault → String
  | .fileMissing path => "Configuration file not found: " ++ path
  | .fileUnreadable path why => "Failed to read configuration file " ++ path ++ ": " ++ why
  | .variablesMissing names =>
    "Missing required environment variables: " ++ ", ".intercalate names
  | .malformed why => "Failed to parse TOML: " ++ why
  | .badOverride value name => "Invalid value '" ++ value ++ "' for " ++ name
  | .unknownFormat given =>
    "Invalid destination format '" ++ given ++
      "'. Must be one of: NEWLINE_DELIMITED_JSON, CSV, AVRO, PARQUET"
  | .invalid why => "Configuration validation failed: " ++ why
  | .badPattern pattern why => "Invalid job id pattern '" ++ pattern ++ "': " ++ why
  | .unknownLevel given =>
    "Invalid log level: " ++ given ++ ". Must be one of: trace, debug, info, warn, error"
  | .noLogDirectory path why => "Failed to create log directory " ++ path ++ ": " ++ why
  | .noHttpClient why => "Failed to build HTTP client: " ++ why
  | .stated why => why

inductive Fault where
  | argument (cause : ArgumentFault)
  /-- The service answered for another job than the one asked for. -/
  | identity (expected actual : JobReference)
  | remote (fault : StagedFault)
  /-- The wait for this job was called off. -/
  | cancelled (job : String)
  | configuration (cause : ConfigurationFault)
  | io (why : String)
  | serialization (why : String)
deriving DecidableEq, Repr

namespace Fault

def message : Fault → String
  | .argument cause => "Invalid argument: " ++ cause.message
  | .identity expected actual =>
    "Integrity error: job identities must match (expected '" ++ expected.shown ++
      "', got '" ++ actual.shown ++ "')"
  | .remote fault => "Remote service error: " ++ fault.shown
  | .cancelled job => "Cancelled while waiting for job '" ++ job ++ "'"
  | .configuration cause => "Configuration error: " ++ cause.message
  | .io why => "I/O error: " ++ why
  | .serialization why => "Serialization error: " ++ why

/-- Whether the fault came up before the service took the job. -/
def neverStarted : Fault → Bool
  | .argument _ => true
  | .configuration _ => true
  | .remote fault => fault.stage = .submission
  | _ => false

/-- The exit code the command line leaves with. -/
def exitCode : Fault → Nat
  | .cancelled _ => 130
  | .remote fault => if fault.stage = .execution then 1 else 4
  | .configuration _ => 2
  | .argument _ => 2
  | .identity _ _ => 5
  | .io _ => 5
  | .serialization _ => 5

end Fault
end WarehouseJobs
