-- Tables as they go over the wire. The number of rows is a text there, and a text that is no
-- number counts as none.
import WarehouseJobs.Wire.Jobs

namespace WarehouseJobs.Wire

open Json (fields? text? optional? orElse? ofOption)

structure TableInfo where
  /-- As sent; a part may be empty. -/
  name : TableReference
  schema : Option TableSchema
  rows : Option String
deriving Repr

mutual

/-- A column on the wire always has the field for its own columns. -/
def column : TableField → Json
  | .mk name type mode fields =>
    .record [("name", .text name), ("type", .text type), ("mode", ofOption .text mode),
      ("fields", .list (columns fields))]

def columns : List TableField → List Json
  | [] => []
  | f :: fs => column f :: columns fs

end

def TableInfo.toJson (t : TableInfo) : Json :=
  .record [("tableReference", tableName t.name),
    ("schema", ofOption (fun (s : TableSchema) => .record [("fields", .list (columns s.fields))])
      t.schema),
    ("numRows", ofOption .text t.rows)]

def TableInfo.ofJson? (j : Json) : Option TableInfo := do
  match ← fields? [("tableReference", .refused), ("schema", .default), ("numRows", .default)] j with
  | [some name, schema, rows] =>
    some
      { name := ← tableName? name
        schema := ← orElse? none (optional? (TableSchema.ofJson? (nestingLimit - 1))) schema
        rows := ← orElse? none (optional? text?) rows }
  | _ => none

/-- The table of an answer with HTTP status `status`. -/
def TableInfo.table (t : TableInfo) (status : UInt16) : Except RemoteFault Table :=
  match TableReference.ofParts t.name.project t.name.dataset t.name.table with
  | .error fault => .error (.invalidResponse status fault.message)
  | .ok reference =>
    .ok { reference, schema := t.schema, rows := t.rows.bind Text.uint64? }

end WarehouseJobs.Wire
