-- What programs tell about their work: a level, where it comes from, a message and fields.
import WarehouseJobs.Time.Interval

namespace WarehouseJobs

inductive LogLevel where
  | trace
  | debug
  | info
  | warn
  | error
deriving DecidableEq, Repr

namespace LogLevel

/-- The larger, the more pressing. -/
def rank : LogLevel → Nat
  | .trace => 0
  | .debug => 1
  | .info => 2
  | .warn => 3
  | .error => 4

def name : LogLevel → String
  | .trace => "TRACE"
  | .debug => "DEBUG"
  | .info => "INFO"
  | .warn => "WARN"
  | .error => "ERROR"

def all : List LogLevel := [.trace, .debug, .info, .warn, .error]

/-- The level of a name in any case. -/
def ofName? (s : String) : Option LogLevel := all.find? fun level => level.name.toLower = s.toLower

end LogLevel

inductive LogValue where
  /-- Printed as it is. -/
  | plain (s : String)
  /-- Printed between quotes. -/
  | text (s : String)
  | number (n : Nat)
  | truth (b : Bool)
deriving DecidableEq, Repr

structure LogEvent where
  level : LogLevel
  /-- The part of the program that speaks. -/
  target : String
  message : String
  fields : List (String × LogValue) := []
deriving DecidableEq, Repr

/-! ## Events that several parts tell in the same words -/

namespace LogEvent

def submitted (target project job kind : String) : LogEvent :=
  ⟨.info, target, "Job submitted",
    [("project_id", .plain project), ("job_id", .plain job), ("kind", .text kind)]⟩

def finished (target job state : String) (took : Nanos) : LogEvent :=
  ⟨.info, target, "Job finished",
    [("job_id", .plain job), ("state", .plain state), ("duration_ms", .number took.toMillis)]⟩

/-- Something went wrong; the context says where. -/
def failed (target what context : String) : LogEvent :=
  ⟨.error, target, "Error occurred", [("error", .plain what), ("context", .text context)]⟩

def retrying (target : String) (attempt most : Nat) (reason : String) : LogEvent :=
  ⟨.warn, target, "Retrying operation",
    [("attempt", .number attempt), ("max_attempts", .number most), ("reason", .plain reason)]⟩

end LogEvent
end WarehouseJobs
