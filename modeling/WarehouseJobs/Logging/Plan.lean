-- Where events go: what is told at all, and the file that is kept besides the console.
import WarehouseJobs.Fault
import WarehouseJobs.Logging.Filter
import WarehouseJobs.Settings.Schema

namespace WarehouseJobs

/-! ## Files -/

/-- How often a new file is begun. -/
inductive Rotation where
  | hourly
  | daily
  | never
deriving DecidableEq, Repr

namespace Rotation

/-- Any other word means a file a day. -/
def ofText (s : String) : Rotation :=
  if s = "hourly" then .hourly else if s = "never" then .never else .daily

/-- The name of the file, given the current day and the current hour. -/
def fileName (r : Rotation) (day hour : String) : String :=
  match r with
  | .hourly => "jobrelay.log." ++ hour
  | .daily => "jobrelay.log." ++ day
  | .never => "jobrelay.log"

end Rotation

structure LogFile where
  directory : String
  rotation : Rotation
deriving DecidableEq, Repr

/-! ## Plans -/

structure LogPlan where
  filter : LogFilter
  file : Option LogFile
  /-- Told once at the beginning. -/
  opening : LogEvent
deriving Repr

namespace LogPlan

def target : String := "jobrelay::logging::structured"

def openingEvent (s : LoggingSettings) : LogEvent :=
  ⟨.debug, target, "Logging initialized",
    [("local_enabled", .truth s.localEnabled), ("local_path", .plain s.localPath)]⟩

/-- The filter of the environment, if there is one that can be read; else the level counts. -/
def filterOf (level : LogLevel) (given : Option String) : LogFilter :=
  (given.bind LogFilter.ofText?).getD (.ofLevel level)

/-- The plan for a level by name. `given` is the filter of the environment. -/
def ofSettings (level : String) (given : Option String) (s : LoggingSettings) :
    Except ConfigurationFault LogPlan :=
  match LogLevel.ofName? level with
  | none => .error (.unknownLevel level)
  | some known =>
    .ok
      { filter := filterOf known given
        file := if s.localEnabled then some ⟨s.localPath, .ofText s.localRotation⟩ else none
        opening := openingEvent s }

/-- A plan is carried out once the directory of its file is there. -/
def withDirectory (p : LogPlan) (made : Except String Unit) : Except ConfigurationFault LogPlan :=
  match p.file, made with
  | some file, .error why => .error (.noLogDirectory file.directory why)
  | _, _ => .ok p

/-- The plan for a level by name, in a place where `make` makes directories. -/
def start (level : String) (given : Option String) (s : LoggingSettings)
    (make : String → Except String Unit) : Except Fault LogPlan :=
  match ofSettings level given s with
  | .error fault => .error (.configuration fault)
  | .ok plan =>
    match plan.withDirectory (make s.localPath) with
    | .error fault => .error (.configuration fault)
    | .ok plan => .ok plan

end LogPlan
end WarehouseJobs
