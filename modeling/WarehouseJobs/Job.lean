-- What a job is: what was asked for, and what the service says about it.
import WarehouseJobs.Export.Format
import WarehouseJobs.Identity
import WarehouseJobs.Table.Reference
import WarehouseJobs.Time.Instant
import WarehouseJobs.Url.Address

namespace WarehouseJobs

/-! ## Where an export goes

A storage address with a bucket for its host. The text itself is kept as it was given, because the
service reads it, not we. -/

inductive DestinationFault where
  | notAnAddress (given : String) (why : AddressFault)
  | noBucket (given : String)
deriving DecidableEq, Repr

def DestinationFault.message : DestinationFault → String
  | .notAnAddress given why => "Invalid storage URI '" ++ given ++ "': " ++ why.message
  | .noBucket given => "Storage URI '" ++ given ++ "' has no bucket"

structure Destination where
  text : String
  bucket : String
deriving DecidableEq, Repr

namespace Destination

def ofText (s : String) : Except DestinationFault Destination :=
  match Address.ofText s with
  | .error fault => .error (.notAnAddress s fault)
  | .ok address =>
    match address.host with
    | none => .error (.noBucket s)
    | some bucket => .ok ⟨s, bucket⟩

end Destination

/-! ## What is asked for -/

/-- The export of one table. -/
structure Extract where
  source : TableReference
  /-- In the order in which they were given. -/
  destinations : List Destination
  format : ExportFormat
deriving DecidableEq, Repr

inductive JobTask where
  | extract (details : Extract)
deriving DecidableEq, Repr

def JobTask.kind : JobTask → String
  | .extract _ => "extract"

structure JobDescription where
  reference : JobReference
  task : JobTask
deriving DecidableEq, Repr

/-! ## What the service says -/

inductive JobState where
  | pending
  | running
  | done
  /-- Ended, with an error. -/
  | failed
deriving DecidableEq, Repr

namespace JobState

def name : JobState → String
  | .pending => "PENDING"
  | .running => "RUNNING"
  | .done => "DONE"
  | .failed => "ERROR"

def ofName? (s : String) : Option JobState :=
  [pending, running, done, failed].find? fun state => state.name = s

/-- A job in such a state never changes again. -/
def isTerminal : JobState → Bool
  | .done | .failed => true
  | .pending | .running => false

theorem ofName?_name (state : JobState) : ofName? state.name = some state := by
  cases state <;> decide

end JobState

/-- One error of a job, as the service tells it. -/
structure JobErrorDetail where
  reason : Option String
  location : Option String
  message : String
deriving DecidableEq, Repr

def JobErrorDetail.shown (d : JobErrorDetail) : String :=
  match d.reason with
  | some reason => "[" ++ reason ++ "] " ++ d.message
  | none => d.message

structure JobStatistics where
  created : Option Instant
  started : Option Instant
  ended : Option Instant
deriving DecidableEq, Repr

/-- A job as the service last showed it. -/
structure JobHandle where
  reference : JobReference
  state : JobState
  /-- Why the job failed. -/
  errorResult : Option JobErrorDetail := none
  /-- All errors on the way, also those the job survived. -/
  errors : List JobErrorDetail := []
  statistics : Option JobStatistics := none
deriving DecidableEq, Repr

def JobHandle.isTerminal (h : JobHandle) : Bool := h.state.isTerminal

end WarehouseJobs
