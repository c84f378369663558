-- Looking at tables: whether they exist, what is in them, and how that is told.
import WarehouseJobs.Effects

namespace WarehouseJobs.Inspection

def getTable (reference : TableReference) : Work (Except Fault Table) := do
  match ← Work.table reference with
  | .ok table => pure (.ok table)
  | .error cause => pure (.error (.remote (cause.during .inspection)))

/-- Whether the service knows the table. A table that is not found is no fault. -/
def tableExists (reference : TableReference) : Work (Except Fault Bool) := do
  match ← Work.table reference with
  | .ok _ => pure (.ok true)
  | .error cause =>
    let fault := cause.during .inspection
    if fault.verdict = .notFound then pure (.ok false) else pure (.error (.remote fault))

def tableSchema (reference : TableReference) : Work (Except Fault (Option TableSchema)) := do
  match ← getTable reference with
  | .ok table => pure (.ok table.schema)
  | .error fault => pure (.error fault)

/-! ## Told in lines -/

def indent (depth : Nat) : String := String.ofList (List.replicate (2 * depth) ' ')

mutual

/-- A field and the fields inside it, which stand further to the right. -/
def fieldLines (depth : Nat) : TableField → List String
  | .mk name type mode fields =>
    (indent depth ++ name ++ " " ++ type ++ " " ++ mode.getD "NULLABLE") ::
      fieldsLines (depth + 1) fields

def fieldsLines (depth : Nat) : List TableField → List String
  | [] => []
  | field :: fields => fieldLines depth field ++ fieldsLines depth fields

end

def schemaLines : Option TableSchema → List String
  | some schema => "Schema:" :: fieldsLines 1 schema.fields
  | none => ["Schema: (none)"]

def lines (withSchema : Bool) (t : Table) : List String :=
  ["Table: " ++ t.reference.shown] ++
  (t.rows.toList.map fun rows => s!"Rows:  {rows.toNat}") ++
  if withSchema then schemaLines t.schema else []

end WarehouseJobs.Inspection
