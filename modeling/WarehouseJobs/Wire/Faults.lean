-- Answers that say what went wrong. A body that is not of the agreed form is taken as the
-- message itself.
import WarehouseJobs.Json.Reader
import WarehouseJobs.Wire.Tables

namespace WarehouseJobs.Wire

open Json (fields? text? optional? orElse? list?)

structure FaultBody where
  code : Option UInt16
  message : Option String
  errors : List ErrorNote
deriving DecidableEq, Repr

namespace FaultBody

def ofJson? (j : Json) : Option FaultBody := do
  match ← fields? [("code", .default), ("message", .default), ("errors", .default)] j with
  | [code, message, errors] =>
    some ⟨← orElse? none (optional? Json.uint16?) code,
      ← orElse? none (optional? text?) message,
      ← orElse? [] (list? ErrorNote.ofJson?) errors⟩
  | _ => none

/-- The body of the agreed form: a record with the field `error`. -/
def ofText? (body : String) : Option FaultBody := do
  match ← fields? [("error", .refused)] (← Json.ofText? body) with
  | [some error] => ofJson? error
  | _ => none

/-- The first reason that any of the errors gives. -/
def reason (b : FaultBody) : Option String := b.errors.findSome? ErrorNote.reason

end FaultBody

/-- The fault of an answer that is no success. -/
def faultOf (status : UInt16) (body : String) : RemoteFault :=
  match FaultBody.ofText? body with
  | some b =>
    { status := some (b.code.getD status)
      reason := b.reason
      message := b.message.getD s!"HTTP {status.toNat}" }
  | none => .ofStatus status body

end WarehouseJobs.Wire
