-- Events as lines: for people on the console, and as JSON in a file.
import WarehouseJobs.Json.Writer
import WarehouseJobs.Logging.Event
import WarehouseJobs.Text.Category

namespace WarehouseJobs

namespace LogValue

def shown : LogValue → String
  | .plain s => s
  | .text s => Text.quoted s
  | .number n => s!"{n}"
  | .truth b => s!"{b}"

def toJson : LogValue → Json
  | .plain s => .text s
  | .text s => .text s
  | .number n => Json.ofNat n
  | .truth b => .bool b

end LogValue

namespace LogEvent

/-- The line of an event without its time. -/
def line (e : LogEvent) : String :=
  let fields := e.fields.map fun (name, value) => " " ++ name ++ "=" ++ value.shown
  e.level.name ++ " " ++ e.target ++ ": " ++ e.message ++ String.join fields

/-- The fields of an event, its message among them. -/
def fieldsJson (e : LogEvent) : Json :=
  .record (("message", .text e.message) :: e.fields.map fun (name, value) => (name, value.toJson))

/-- The record of an event without its time and place. -/
def toJson (e : LogEvent) : Json :=
  .record [("level", .text e.level.name), ("fields", e.fieldsJson), ("target", .text e.target)]

end LogEvent
end WarehouseJobs
