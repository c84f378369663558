-- Exporting a table: a new id, a submission, and the wait for the end of the job.
import WarehouseJobs.Waiting

namespace WarehouseJobs

/-- What stays the same over all exports. -/
structure Exporter where
  rules : IdRules
  idPrefix : String
  format : ExportFormat
  location : Option String
  polling : PollingSettings

namespace Exporter

def target : String := "jobrelay::core::export"

def ofSettings (s : Settings) : Except Fault Exporter :=
  match IdRules.ofSettings s.jobs with
  | .error fault => .error fault
  | .ok rules =>
    .ok
      { rules
        idPrefix := s.jobs.exportPrefix
        format := s.jobs.destinationFormat
        location := s.service.location
        polling := s.polling }

def submittedEvent (project : ProjectId) (handle : JobHandle) (task : JobTask) : LogEvent :=
  .submitted target project.text handle.reference.id.text task.kind

def finishedEvent (handle : JobHandle) (took : Nanos) : LogEvent :=
  .finished target handle.reference.id.text handle.state.name took

/-- Why a job that failed is a fault. -/
def executionFault (handle : JobHandle) : StagedFault :=
  { verdict := .fatal
    stage := .execution
    cause :=
      match handle.errorResult with
      | some detail => ⟨none, detail.reason, detail.message⟩
      | none => ⟨none, none, "job " ++ handle.reference.shown ++ " finished in ERROR state"⟩ }

/-- The job that an export asks for, under a new reference. -/
def description (e : Exporter) (reference : JobReference) (source : TableReference)
    (destinations : List Destination) : JobDescription :=
  { reference :=
      match e.location with
      | some location => { reference with location := some location }
      | none => reference
    task := .extract ⟨source, destinations, e.format⟩ }

/-- Waits for a submitted job. A job that ends with an error is a fault. -/
def await (e : Exporter) (rounds : Nat) (project : ProjectId) (started : Nanos)
    (handle : JobHandle) (onTick : Nat → Work Unit) : Work (Except Fault JobHandle) := do
  match ← Waiting.awaitCompletion e.polling rounds project handle onTick with
  | .error fault => pure (.error fault)
  | .ok .cancelled => pure (.error (.cancelled handle.reference.id.text))
  | .ok (.completed finished) =>
    let now ← Work.now
    Work.log (finishedEvent finished (now - started))
    if finished.state = .failed then pure (.error (.remote (executionFault finished)))
    else pure (.ok finished)

/-- Submits an export, and waits for it if asked to. -/
def run (e : Exporter) (rounds : Nat) (project : ProjectId) (source : TableReference)
    (destinations : List Destination) (wait : Bool) (onTick : Nat → Work Unit) :
    Work (Except Fault JobHandle) :=
  if destinations.isEmpty then .done (.error (.argument .noDestination))
  else do
    let random ← Work.draw
    match e.rules.generate project.text e.idPrefix random with
    | .error fault => pure (.error fault)
    | .ok reference =>
      let job := e.description reference source destinations
      let started ← Work.now
      match ← Submission.submit project job with
      | .error fault => pure (.error fault)
      | .ok handle =>
        Work.log (submittedEvent project handle job.task)
        if wait then e.await rounds project started handle onTick else pure (.ok handle)

end Exporter
end WarehouseJobs
