-- Submitting a job so that it exists once, however often it is submitted. The service keeps
-- jobs apart by their ids; if it says that the id is taken, the job under that id is looked
-- up and given back.
import WarehouseJobs.Effects

namespace WarehouseJobs

inductive SubmitOutcome where
  /-- This submission created the job. -/
  | created (handle : JobHandle)
  /-- The job was there already. -/
  | duplicate (handle : JobHandle)
deriving DecidableEq, Repr

namespace SubmitOutcome

def handle : SubmitOutcome → JobHandle
  | created handle => handle
  | duplicate handle => handle

def isDuplicate : SubmitOutcome → Bool
  | created _ => false
  | duplicate _ => true

end SubmitOutcome

/-- An answer must be about the job that was asked for. -/
def checkIdentity (expected actual : JobReference) : Except Fault Unit :=
  if expected.sameJob actual then .ok () else .error (.identity expected actual)

namespace Submission

def target : String := "jobrelay::core::submit"

def named (project : ProjectId) (job : JobDescription) : List (String × LogValue) :=
  [("project_id", .plain project.text), ("job_id", .plain job.reference.id.text)]

def createdEvent (project : ProjectId) (job : JobDescription) (handle : JobHandle) : LogEvent :=
  ⟨.debug, target, "Job created", named project job ++ [("state", .plain handle.state.name)]⟩

def lookupEvent (project : ProjectId) (job : JobDescription) : LogEvent :=
  ⟨.debug, target, "Fetching existing job after duplicate job id", named project job⟩

def rejectedEvent (project : ProjectId) (job : JobDescription) (fault : StagedFault) : LogEvent :=
  ⟨.debug, target, "Job submission rejected",
    named project job ++ [("class", .plain fault.verdict.name), ("error", .plain fault.cause.shown)]⟩

/-- What becomes of a job that was created. -/
def accept (project : ProjectId) (job : JobDescription) (handle : JobHandle) :
    Work (Except Fault SubmitOutcome) :=
  match checkIdentity job.reference handle.reference with
  | .error fault => .done (.error fault)
  | .ok () => do
    Work.log (createdEvent project job handle)
    pure (.ok (.created handle))

/-- Looks up the job that has the id already. -/
def lookUp (project : ProjectId) (job : JobDescription) : Work (Except Fault SubmitOutcome) := do
  Work.log (lookupEvent project job)
  match ← Work.get project job.reference.id job.reference.location with
  | .error cause => pure (.error (.remote (cause.during .submission)))
  | .ok handle =>
    match checkIdentity job.reference handle.reference with
    | .error fault => pure (.error fault)
    | .ok () => pure (.ok (.duplicate handle))

def reject (project : ProjectId) (job : JobDescription) (fault : StagedFault) :
    Work (Except Fault SubmitOutcome) := do
  Work.log (rejectedEvent project job fault)
  pure (.error (.remote fault))

/-- Submits a job, and tells whether it is new. -/
def submitClassified (project : ProjectId) (job : JobDescription) :
    Work (Except Fault SubmitOutcome) :=
  if job.reference.id.text.isEmpty then .done (.error (.argument .missingJobId))
  else do
    match ← Work.create project job with
    | .ok handle => accept project job handle
    | .error cause =>
      match cause.classify with
      | .alreadyExists => lookUp project job
      | verdict => reject project job ⟨verdict, .submission, cause⟩

/-- Submits a job. -/
def submit (project : ProjectId) (job : JobDescription) : Work (Except Fault JobHandle) := do
  match ← submitClassified project job with
  | .ok outcome => pure (.ok outcome.handle)
  | .error fault => pure (.error fault)

end Submission
end WarehouseJobs
