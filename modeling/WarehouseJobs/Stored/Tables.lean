-- The JSON forms in which we keep tables. What is written reads back as the same value.
import WarehouseJobs.Json.Shape
import WarehouseJobs.Table.Description

namespace WarehouseJobs

open Json (fields? text? optional? orElse? list? ofOption optionalField)

/-! ## References -/

def TableReference.toJson (t : TableReference) : Json :=
  .record [("project_id", .text t.project), ("dataset_id", .text t.dataset),
    ("table_id", .text t.table)]

def TableReference.ofJson? (j : Json) : Option TableReference := do
  match ← fields? [("project_id", .refused), ("dataset_id", .refused), ("table_id", .refused)] j with
  | [some project, some dataset, some table] =>
    some ⟨← text? project, ← text? dataset, ← text? table⟩
  | _ => none

/-! ## Columns -/

mutual

/-- A column without columns of its own has no field for them. -/
def TableField.toJson : TableField → Json
  | .mk name type mode fields =>
    .record ([("name", .text name), ("type", .text type), ("mode", ofOption .text mode)] ++
      if fields.isEmpty then [] else [("fields", .list (TableField.listToJson fields))])

def TableField.listToJson : List TableField → List Json
  | [] => []
  | f :: fs => f.toJson :: TableField.listToJson fs

end

/-- How many levels of lists and records a reader enters. -/
def nestingLimit : Nat := 127

/-- A column, where `inside?` reads the columns inside it. -/
def TableField.ofColumn? (inside? : List Json → Option (List TableField)) (j : Json) :
    Option TableField := do
  match ← fields? [("name", .refused), ("type", .refused), ("mode", .default),
      ("fields", .default)] j with
  | [some name, some type, mode, inner] =>
    let inner ← match inner with
      | none => some []
      | some (.list items) => inside? items
      | some _ => none
    some (.mk (← text? name) (← text? type) (← orElse? none (optional? text?) mode) inner)
  | _ => none

/-- A column, with at most `levels` more levels of lists and records; each column inside
another takes two of them. -/
def TableField.ofJson? : (levels : Nat) → Json → Option TableField
  | 0, _ => none
  | 1, j => ofColumn? (fun _ => none) j
  | levels + 2, j => ofColumn? (fun items => items.mapM (ofJson? levels)) j

/-! ## Tables -/

def TableSchema.toJson (s : TableSchema) : Json :=
  .record [("fields", .list (TableField.listToJson s.fields))]

/-- The columns of a schema that stands `levels` levels above the limit. -/
def TableSchema.ofJson? (levels : Nat) (j : Json) : Option TableSchema := do
  match ← fields? [("fields", .default)] j with
  | [fields] => some ⟨← orElse? [] (list? (TableField.ofJson? (levels - 2))) fields⟩
  | _ => none

def Table.toJson (t : Table) : Json :=
  .record [("reference", t.reference.toJson), ("schema", ofOption TableSchema.toJson t.schema),
    ("num_rows", ofOption Json.ofUInt64 t.rows)]

def Table.ofJson? (j : Json) : Option Table := do
  match ← fields? [("reference", .refused), ("schema", .default), ("num_rows", .default)] j with
  | [some reference, schema, rows] =>
    some
      { reference := ← TableReference.ofJson? reference
        schema := ← orElse? none (optional? (TableSchema.ofJson? (nestingLimit - 1))) schema
        rows := ← orElse? none (optional? Json.uint64?) rows }
  | _ => none

end WarehouseJobs
