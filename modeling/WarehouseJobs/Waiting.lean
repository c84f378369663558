-- Waiting for a job to end: looks at its state, again and again, with longer and longer
-- sleeps between. Passing faults are put up with for a while, and a signal calls the wait off.
import WarehouseJobs.Logging.Event
import WarehouseJobs.Settings.Schema
import WarehouseJobs.Submission

namespace WarehouseJobs

inductive WaitOutcome where
  | completed (handle : JobHandle)
  | cancelled
deriving DecidableEq, Repr

namespace PollingSettings

def initialInterval (s : PollingSettings) : Nanos := .ofMillis s.initialIntervalMs

def maxInterval (s : PollingSettings) : Nanos := .ofMillis s.maxIntervalMs

/-- The sleep after a sleep of length `current`. -/
def nextInterval (s : PollingSettings) (current : Nanos) : Nanos :=
  current.grown s.backoffMultiplier s.maxInterval

end PollingSettings

namespace Waiting

def target : String := "jobrelay::core::poll"

/-! ## One look -/

/-- Asks once for the state of a job. -/
def fetchStatus (project : ProjectId) (reference : JobReference) : Work (Except Fault JobHandle) := do
  match ← Work.get project reference.id reference.location with
  | .error cause => pure (.error (.remote (cause.during .polling)))
  | .ok handle =>
    match checkIdentity reference handle.reference with
    | .error fault => pure (.error fault)
    | .ok () => pure (.ok handle)

/-- The cause of a fault that may pass by itself. -/
def transientCause? : Fault → Option RemoteFault
  | .remote fault => if fault.verdict = .transient then some fault.cause else none
  | _ => none

/-- What a look means for the wait. -/
inductive Verdict where
  | decided (result : Except Fault WaitOutcome)
  /-- Goes on, with so many transient errors in a row. -/
  | again (errors : UInt32)

/-- Judges a look after `errors` transient errors in a row, where `limit` are allowed. -/
def judge (limit errors : UInt32) : Except Fault JobHandle → Verdict
  | .ok handle => if handle.isTerminal then .decided (.ok (.completed handle)) else .again 0
  | .error fault =>
    match transientCause? fault with
    | none => .decided (.error fault)
    | some cause =>
      if limit < errors + 1 then .decided (.error (.remote ⟨.fatal, .polling, cause⟩))
      else .again (errors + 1)

/-! ## Remarks -/

def named (reference : JobReference) : List (String × LogValue) :=
  [("job_id", .plain reference.id.text)]

/-- What is said about a look. -/
def remark (polling : PollingSettings) (reference : JobReference) (interval : Nanos)
    (errors : UInt32) (attempt : Nat) : Except Fault JobHandle → List LogEvent
  | .ok handle =>
    let state := [("state", .plain handle.state.name), ("attempt", .number attempt)]
    if handle.isTerminal then
      [⟨.debug, target, "Job reached terminal state", named reference ++ state⟩]
    else
      [⟨.debug, target, "Job not finished yet",
        named reference ++ state ++ [("next_poll_ms", .number interval.toMillis.toUInt64.toNat)]⟩]
  | .error fault =>
    match transientCause? fault with
    | none => []
    | some cause =>
      if polling.maxTransientErrors < errors + 1 then
        [⟨.warn, target, "Giving up on job after repeated transient errors",
          named reference ++ [("consecutive_errors", .number (errors + 1).toNat)]⟩]
      else
        [.retrying target (errors + 1).toNat polling.maxTransientErrors.toNat cause.shown]

def cancelledEvent (reference : JobReference) : LogEvent :=
  ⟨.info, target, "Wait cancelled", named reference⟩

def cancelledBeforeFetchEvent (reference : JobReference) : LogEvent :=
  ⟨.info, target, "Wait cancelled before fetch", named reference⟩

def logAll : List LogEvent → Work Unit
  | [] => .done ()
  | event :: events => do
    Work.log event
    logAll events

/-! ## Sleeping -/

/-- Sleeps to the deadline, unless the signal calls the wait off. Changes that leave the
signal as it is do not end the sleep, nor does the end of its sender. `rounds` bounds how
many changes are looked at. -/
def sleepOrCancel : (rounds : Nat) → (deadline : Nanos) → Work Bool
  | 0, _ => .pending
  | rounds + 1, deadline => do
    match ← Work.waitForSignal deadline with
    | .deadline => pure false
    | .change => do
      if ← Work.takeSignal then pure true else sleepOrCancel rounds deadline
    | .gone => do
      Work.waitUntil deadline
      pure false

/-! ## The wait -/

/-- Waits on, after `errors` transient errors in a row and `attempt` looks. `rounds` bounds
how many looks are taken. -/
def awaitFrom (polling : PollingSettings) (project : ProjectId) (reference : JobReference)
    (onTick : Nat → Work Unit) : (rounds : Nat) → (interval : Nanos) → (errors : UInt32) →
    (attempt : Nat) → Work (Except Fault WaitOutcome)
  | 0, _, _, _ => .pending
  | rounds + 1, interval, errors, attempt => do
    if ← Work.signal then
      Work.log (cancelledBeforeFetchEvent reference)
      pure (.ok .cancelled)
    else
      let fetched ← fetchStatus project reference
      onTick (attempt + 1)
      logAll (remark polling reference interval errors (attempt + 1) fetched)
      match judge polling.maxTransientErrors errors fetched with
      | .decided result => pure result
      | .again errors =>
        let now ← Work.now
        if ← sleepOrCancel (rounds + 1) (now + interval) then
          Work.log (cancelledEvent reference)
          pure (.ok .cancelled)
        else
          awaitFrom polling project reference onTick rounds (polling.nextInterval interval) errors
            (attempt + 1)

/-- Waits until the job of a handle has ended. The state in the handle does not count. -/
def awaitCompletion (polling : PollingSettings) (rounds : Nat) (project : ProjectId)
    (handle : JobHandle) (onTick : Nat → Work Unit) : Work (Except Fault WaitOutcome) :=
  awaitFrom polling project handle.reference onTick rounds polling.initialInterval 0 0

end Waiting
end WarehouseJobs
