-- A service that plays by a script: it gives the replies it was told, in turn, and when they
-- are used up it keeps jobs of its own.
import WarehouseJobs.Job
import WarehouseJobs.Effects

namespace WarehouseJobs.Simulation

/-! ## Replies -/

/-- A handle as a script tells it. What is left open is as it was asked for. -/
structure HandleTemplate where
  state : JobState
  project : Option String := none
  id : Option String := none
  /-- A location of its own, which may also be none. -/
  location : Option (Option String) := none
  errorResult : Option JobErrorDetail := none
  errors : List JobErrorDetail := []
  statistics : Option JobStatistics := none
deriving Repr

def HandleTemplate.handle (t : HandleTemplate) (asked : JobReference) : JobHandle :=
  { reference :=
      { project := (t.project.map ProjectId.mk).getD asked.project
        id := (t.id.map JobId.mk).getD asked.id
        location := t.location.getD asked.location }
    state := t.state
    errorResult := t.errorResult
    errors := t.errors
    statistics := t.statistics }

/-- One reply, which may take its time. -/
structure Reply (α : Type) where
  delayMs : Nat := 0
  outcome : Except RemoteFault α

/-- What is said when a script is over. -/
def exhausted : RemoteFault := .ofStatus 410 "script exhausted"

/-! ## Jobs of its own -/

/-- A job that the service keeps, and how often it was looked at. -/
structure KeptJob where
  reference : JobReference
  looks : Nat := 0
deriving Repr

/-- The service keeps jobs by their ids. Each look moves a job to its next state. -/
structure Store where
  states : List JobState
  template : HandleTemplate
  jobs : List KeptJob := []
deriving Repr

namespace Store

def find? (s : Store) (id : JobId) : Option KeptJob := s.jobs.find? fun job => job.reference.id = id

/-- The state after so many looks. A job stays in the last state. -/
def stateAfter (s : Store) (looks : Nat) : JobState :=
  match (s.states.take looks).getLast? with
  | some state => state
  | none => .pending

def handle (s : Store) (job : KeptJob) : JobHandle :=
  let state := s.stateAfter job.looks
  { s.template with
      state
      errorResult := if state = JobState.failed then s.template.errorResult else none
    }.handle job.reference

def create (s : Store) (job : JobDescription) : Except RemoteFault JobHandle × Store :=
  match s.find? job.reference.id with
  | some _ =>
    (.error ⟨some 409, some "duplicate", "Already Exists: Job " ++ job.reference.shown⟩, s)
  | none =>
    let kept : KeptJob := { reference := job.reference }
    (.ok (s.handle kept), { s with jobs := s.jobs ++ [kept] })

def get (s : Store) (project : ProjectId) (id : JobId) : Except RemoteFault JobHandle × Store :=
  match s.find? id with
  | none =>
    (.error ⟨some 404, some "notFound", "Not found: Job " ++ project.text ++ ":" ++ id.text⟩, s)
  | some job =>
    let job := { job with looks := job.looks + 1 }
    (.ok (s.handle job),
      { s with jobs := s.jobs.map fun k => if k.reference.id = id then job else k })

end Store

/-! ## The script -/

/-- What a service was asked. -/
inductive Call where
  | create (project : ProjectId) (job : JobDescription) (atMs : Nat)
  | get (project : ProjectId) (id : JobId) (location : Option String) (atMs : Nat)
  | table (reference : TableReference) (atMs : Nat)

structure Script where
  creates : List (Reply HandleTemplate) := []
  gets : List (Reply HandleTemplate) := []
  tables : List (Reply Table) := []
  store : Option Store := none

end WarehouseJobs.Simulation
