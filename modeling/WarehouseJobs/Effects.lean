-- What the programs of this library ask of the world: the service that runs jobs, and the
-- surroundings of the program itself.
import WarehouseJobs.Fault
import WarehouseJobs.Identifier
import WarehouseJobs.Job
import WarehouseJobs.Logging.Event
import WarehouseJobs.Program
import WarehouseJobs.Table.Description
import WarehouseJobs.Time.Interval

namespace WarehouseJobs

/-! ## Surroundings -/

/-- Why a wait for a change of the signal is over. -/
inductive Woken where
  | deadline
  | change
  /-- The sender of the signal has left, and nothing will change any more. -/
  | gone
deriving DecidableEq, Repr

inductive LocalRequest where
  | log (event : LogEvent)
  /-- The time on a clock that never goes back. -/
  | now
  /-- A new random part of an id. -/
  | draw
  /-- The value of the signal. -/
  | signal
  /-- The value of the signal, which counts as seen from now on. -/
  | takeSignal
  /-- Waits for a change of the signal, but not longer than to the deadline. -/
  | waitForSignal (deadline : Nanos)
  | waitUntil (deadline : Nanos)
  /-- Tells whoever waits that another look was taken, the `count`th. -/
  | tick (count : Nat)
  /-- A line on the standard output. -/
  | say (line : String)
  /-- A line on the standard error. -/
  | complain (line : String)

def LocalRequest.Answer : LocalRequest → Type
  | .log _ => Unit
  | .now => Nanos
  | .draw => Uuid
  | .signal => Bool
  | .takeSignal => Bool
  | .waitForSignal _ => Woken
  | .waitUntil _ => Unit
  | .tick _ => Unit
  | .say _ => Unit
  | .complain _ => Unit

/-! ## The service -/

inductive WorkRequest where
  /-- Creates a job under its own id, unless there is one already. -/
  | create (project : ProjectId) (job : JobDescription)
  | get (project : ProjectId) (id : JobId) (location : Option String)
  | table (reference : TableReference)
  | locally (r : LocalRequest)

def WorkRequest.Answer : WorkRequest → Type
  | .create .. => Except RemoteFault JobHandle
  | .get .. => Except RemoteFault JobHandle
  | .table _ => Except RemoteFault Table
  | .locally r => r.Answer

abbrev WorkSignature : Signature := ⟨WorkRequest, WorkRequest.Answer⟩

/-- A program that works with the service. -/
abbrev Work (α : Type) := Program WorkSignature α

namespace Work

def create (project : ProjectId) (job : JobDescription) : Work (Except RemoteFault JobHandle) :=
  .ask (S := WorkSignature) (.create project job) .done

def get (project : ProjectId) (id : JobId) (location : Option String) :
    Work (Except RemoteFault JobHandle) :=
  .ask (S := WorkSignature) (.get project id location) .done

def table (reference : TableReference) : Work (Except RemoteFault Table) :=
  .ask (S := WorkSignature) (.table reference) .done

def log (event : LogEvent) : Work Unit := .ask (S := WorkSignature) (.locally (.log event)) .done

def now : Work Nanos := .ask (S := WorkSignature) (.locally .now) .done

def draw : Work Uuid := .ask (S := WorkSignature) (.locally .draw) .done

def signal : Work Bool := .ask (S := WorkSignature) (.locally .signal) .done

def takeSignal : Work Bool := .ask (S := WorkSignature) (.locally .takeSignal) .done

def waitForSignal (deadline : Nanos) : Work Woken :=
  .ask (S := WorkSignature) (.locally (.waitForSignal deadline)) .done

def waitUntil (deadline : Nanos) : Work Unit :=
  .ask (S := WorkSignature) (.locally (.waitUntil deadline)) .done

def tick (count : Nat) : Work Unit := .ask (S := WorkSignature) (.locally (.tick count)) .done

end Work
end WarehouseJobs
