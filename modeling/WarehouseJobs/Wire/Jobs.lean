-- Jobs as they go over the wire. The service may leave out almost everything; what it sends
-- counts as a job only with a reference, names that are not empty and a known state.
import WarehouseJobs.Fault
import WarehouseJobs.Stored.Jobs
import WarehouseJobs.Text.Category

namespace WarehouseJobs.Wire

open Json (fields? text? optional? orElse? list? ofOption optionalField)

/-! ## What is sent -/

structure JobName where
  project : String
  id : String
  location : Option String
deriving DecidableEq, Repr

structure ExtractTask where
  source : TableReference
  destinations : List String
  format : ExportFormat
deriving DecidableEq, Repr

structure ErrorNote where
  reason : Option String
  location : Option String
  message : Option String
deriving DecidableEq, Repr

structure JobStatus where
  state : Option String := none
  errorResult : Option ErrorNote := none
  errors : List ErrorNote := []
deriving DecidableEq, Repr

/-- Times in milliseconds from 1970, as texts. -/
structure JobTimes where
  created : Option String
  started : Option String
  ended : Option String
deriving DecidableEq, Repr

structure Job where
  name : Option JobName
  extract : Option ExtractTask
  status : Option JobStatus := none
  times : Option JobTimes := none
deriving DecidableEq, Repr

/-! ## JSON -/

def tableName (t : TableReference) : Json :=
  .record [("projectId", .text t.project), ("datasetId", .text t.dataset),
    ("tableId", .text t.table)]

def tableName? (j : Json) : Option TableReference := do
  match ← fields? [("projectId", .refused), ("datasetId", .refused), ("tableId", .refused)] j with
  | [some project, some dataset, some table] =>
    some ⟨← text? project, ← text? dataset, ← text? table⟩
  | _ => none

def JobName.toJson (n : JobName) : Json :=
  .record ([("projectId", .text n.project), ("jobId", .text n.id)] ++
    optionalField "location" .text n.location)

def JobName.ofJson? (j : Json) : Option JobName := do
  match ← fields? [("projectId", .refused), ("jobId", .refused), ("location", .default)] j with
  | [some project, some id, location] =>
    some ⟨← text? project, ← text? id, ← orElse? none (optional? text?) location⟩
  | _ => none

def ExtractTask.toJson (t : ExtractTask) : Json :=
  .record [("sourceTable", tableName t.source),
    ("destinationUris", .list (t.destinations.map .text)), ("destinationFormat", t.format.toJson)]

def ExtractTask.ofJson? (j : Json) : Option ExtractTask := do
  match ← fields? [("sourceTable", .refused), ("destinationUris", .refused),
      ("destinationFormat", .refused)] j with
  | [some source, some destinations, some format] =>
    some ⟨← tableName? source, ← list? text? destinations, ← ExportFormat.ofJson? format⟩
  | _ => none

def ErrorNote.toJson (n : ErrorNote) : Json :=
  .record [("reason", ofOption .text n.reason), ("location", ofOption .text n.location),
    ("message", ofOption .text n.message)]

def ErrorNote.ofJson? (j : Json) : Option ErrorNote := do
  match ← fields? [("reason", .default), ("location", .default), ("message", .default)] j with
  | [reason, location, message] =>
    some ⟨← orElse? none (optional? text?) reason, ← orElse? none (optional? text?) location,
      ← orElse? none (optional? text?) message⟩
  | _ => none

def JobStatus.toJson (s : JobStatus) : Json :=
  .record [("state", ofOption .text s.state), ("errorResult", ofOption ErrorNote.toJson s.errorResult),
    ("errors", .list (s.errors.map ErrorNote.toJson))]

def JobStatus.ofJson? (j : Json) : Option JobStatus := do
  match ← fields? [("state", .default), ("errorResult", .default), ("errors", .default)] j with
  | [state, errorResult, errors] =>
    some ⟨← orElse? none (optional? text?) state,
      ← orElse? none (optional? ErrorNote.ofJson?) errorResult,
      ← orElse? [] (list? ErrorNote.ofJson?) errors⟩
  | _ => none

def JobTimes.toJson (t : JobTimes) : Json :=
  .record [("creationTime", ofOption .text t.created), ("startTime", ofOption .text t.started),
    ("endTime", ofOption .text t.ended)]

def JobTimes.ofJson? (j : Json) : Option JobTimes := do
  match ← fields? [("creationTime", .default), ("startTime", .default), ("endTime", .default)] j with
  | [created, started, ended] =>
    some ⟨← orElse? none (optional? text?) created, ← orElse? none (optional? text?) started,
      ← orElse? none (optional? text?) ended⟩
  | _ => none

/-- The task of a job; a record of one field, which may be missing. -/
def taskToJson (extract : Option ExtractTask) : Json :=
  .record (optionalField "extract" ExtractTask.toJson extract)

def task? (j : Json) : Option (Option ExtractTask) := do
  match ← fields? [("extract", .default)] j with
  | [extract] => orElse? none (optional? ExtractTask.ofJson?) extract
  | _ => none

def Job.toJson (j : Job) : Json :=
  .record (optionalField "jobReference" JobName.toJson j.name ++
    [("configuration", taskToJson j.extract)] ++
    optionalField "status" JobStatus.toJson j.status ++
    optionalField "statistics" JobTimes.toJson j.times)

def Job.ofJson? (j : Json) : Option Job := do
  match ← fields? [("jobReference", .default), ("configuration", .default), ("status", .default),
      ("statistics", .default)] j with
  | [name, task, status, times] =>
    some
      { name := ← orElse? none (optional? JobName.ofJson?) name
        extract := ← orElse? none task? task
        status := ← orElse? none (optional? JobStatus.ofJson?) status
        times := ← orElse? none (optional? JobTimes.ofJson?) times }
  | _ => none

/-! ## From a description, and to a handle -/

/-- The body of a request to create a job. -/
def Job.ofDescription (d : JobDescription) : Job :=
  match d.task with
  | .extract e =>
    { name := some ⟨d.reference.project.text, d.reference.id.text, d.reference.location⟩
      extract := some ⟨e.source, e.destinations.map Destination.text, e.format⟩ }

def ErrorNote.detail (n : ErrorNote) : JobErrorDetail := ⟨n.reason, n.location, n.message.getD ""⟩

def instant? (millis : Option String) : Option Instant :=
  millis.bind fun s => (Text.signed64? s).bind Instant.ofMillis?

def JobTimes.statistics (t : JobTimes) : JobStatistics :=
  ⟨instant? t.created, instant? t.started, instant? t.ended⟩

/-- The state of a job. A job that is done failed if it has an error result. -/
def JobStatus.jobState? (s : JobStatus) : Option JobState :=
  match s.state with
  | some "PENDING" => some .pending
  | some "RUNNING" => some .running
  | some "DONE" => some (if s.errorResult.isSome then .failed else .done)
  | _ => none

def JobName.reference (n : JobName) : Except NameFault JobReference :=
  match ProjectId.ofText n.project with
  | .error fault => .error fault
  | .ok project =>
    match JobId.ofText n.id with
    | .error fault => .error fault
    | .ok id => .ok ⟨project, id, n.location⟩

/-- The job of an answer with HTTP status `status`. -/
def Job.handle (j : Job) (status : UInt16) : Except RemoteFault JobHandle :=
  match j.name with
  | none => .error (.invalidResponse status "job resource has no jobReference")
  | some name =>
    match name.reference with
    | .error fault => .error (.invalidResponse status fault.message)
    | .ok reference =>
      let said := j.status.getD {}
      match said.jobState? with
      | none =>
        .error (.invalidResponse status ("unknown job state " ++ Text.quotedOption said.state))
      | some state =>
        .ok
          { reference, state
            errorResult := said.errorResult.map ErrorNote.detail
            errors := said.errors.map ErrorNote.detail
            statistics := j.times.map JobTimes.statistics }

end WarehouseJobs.Wire
