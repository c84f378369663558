-- The whole program around a command: which events are told, how it begins, and what happens
-- when somebody interrupts it.
import WarehouseJobs.CommandLine.Commands
import WarehouseJobs.Logging.Plan
import WarehouseJobs.Signal

namespace WarehouseJobs

/-! ## Interrupts -/

/-- What calls off a wait from outside. -/
inductive Interrupt where
  | keyboard
  | termination
deriving DecidableEq, Repr

namespace Interrupt

def message : Interrupt → String
  | .keyboard => "Received SIGINT (Ctrl+C), cancelling wait"
  | .termination => "Received SIGTERM, cancelling wait"

def event (i : Interrupt) : LogEvent := ⟨.info, "jobrelay", i.message, []⟩

/-- Said to the person who interrupts. -/
def notice : String := "\nShutdown signal received, no longer waiting for the job"

/-- An interrupt sets the signal, and its sender is gone. -/
def reach (s : Signal) : Signal := (s.after (.set true)).after .leave

end Interrupt

/-! ## The program -/

namespace Launch

def target : String := "jobrelay"

def version : String := "0.1.0"

def versionEvent : LogEvent := ⟨.info, target, "jobrelay", [("version", .text version)]⟩

/-- The level that counts: that of the command line, of the settings, or else `info`. -/
def logLevel (i : Invocation) (found : Command.Found) : String :=
  match i.logLevel, found with
  | some level, _ => level
  | none, .ok s => s.application.logLevel
  | none, .error _ => "info"

/-- Settings that cannot be loaded do not matter here; the command complains about them. -/
def loggingSettings : Command.Found → LoggingSettings
  | .ok s => s.logging
  | .error _ => {}

def filterVariable : String := "RUST_LOG"

/-- How this run tells its events. -/
def logPlan (env : Environment) (i : Invocation) (found : Command.Found)
    (make : String → Except String Unit) : Except Fault LogPlan :=
  LogPlan.start (logLevel i found) (env.get? filterVariable) (loggingSettings found) make

/-- What is complained about when events cannot be told. -/
def noLogging (fault : Fault) : String := "Failed to initialize logging: " ++ fault.message

def failureEvent (fault : Fault) : LogEvent :=
  ⟨.error, target, "Command execution failed", [("error", .plain fault.message)]⟩

/-- Runs the command, and gives the exit code. -/
def run (plan : LogPlan) (i : Invocation) (found : Command.Found) (rounds : Nat)
    (builder : Client.Builder := .ready) : Http Nat := do
  Http.log plan.opening
  Http.log versionEvent
  match ← i.command.run i.settingsPath found rounds builder with
  | .ok code => pure code
  | .error fault =>
    Http.log (failureEvent fault)
    Http.complain ("Error: " ++ fault.message)
    pure ExitCode.fatal

/-- Runs the program, once it is settled how its events are told. Without a plan for that, nothing
is run. -/
def start (planned : Except Fault LogPlan) (i : Invocation) (found : Command.Found)
    (rounds : Nat) (builder : Client.Builder := .ready) : Http Nat :=
  match planned with
  | .error fault => do
    Http.complain (noLogging fault)
    pure ExitCode.fatal
  | .ok plan => run plan i found rounds builder

end Launch
end WarehouseJobs
