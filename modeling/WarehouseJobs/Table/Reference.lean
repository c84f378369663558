-- The full name of a table: project, dataset and table. It is written
-- `project:dataset.table`, or with points alone. A project may have a domain in front
-- (`example.com:analytics`), so the last colon ends the project.
import WarehouseJobs.Text.Split

namespace WarehouseJobs

structure TableReference where
  project : String
  dataset : String
  table : String
deriving DecidableEq, Repr

/-- Why a text names no table. -/
inductive TableNameFault where
  /-- One of the three names is empty; `shown` is how the three would be written. -/
  | emptyPart (shown : String)
  /-- There is no point behind the last colon. -/
  | noDataset (given : String)
  /-- Without a colon there must be exactly two points. -/
  | notThreeParts (given : String)
deriving DecidableEq, Repr

def TableNameFault.message : TableNameFault → String
  | .emptyPart shown =>
    "Table reference '" ++ shown ++ "' must have non-empty project, dataset and table"
  | .noDataset given => "Invalid table reference '" ++ given ++ "': expected dataset.table"
  | .notThreeParts given =>
    "Invalid table reference '" ++ given ++
      "': expected project:dataset.table or project.dataset.table"

namespace TableReference

def shown (t : TableReference) : String := t.project ++ ":" ++ t.dataset ++ "." ++ t.table

/-- None of the three names may be empty. -/
def ofParts (project dataset table : String) : Except TableNameFault TableReference :=
  let t : TableReference := ⟨project, dataset, table⟩
  if project.isEmpty || dataset.isEmpty || table.isEmpty then .error (.emptyPart t.shown)
  else .ok t

/-- Reads either spelling. Behind a colon the first point ends the dataset, so the table may
have points of its own; without a colon every point separates. -/
def ofText (s : String) : Except TableNameFault TableReference :=
  match Text.splitLast ':' s.toList with
  | some (project, rest) =>
    match Text.splitFirst '.' rest with
    | some (dataset, table) =>
      ofParts (String.ofList project) (String.ofList dataset) (String.ofList table)
    | none => .error (.noDataset s)
  | none =>
    match Text.splitAll '.' s.toList with
    | [project, dataset, table] =>
      ofParts (String.ofList project) (String.ofList dataset) (String.ofList table)
    | _ => .error (.notThreeParts s)

theorem ofParts_eq_ok_iff {p d t : String} {r : TableReference} :
    ofParts p d t = .ok r ↔ r = ⟨p, d, t⟩ ∧ p ≠ "" ∧ d ≠ "" ∧ t ≠ "" := by
  by_cases hp : p = ""
  · simp [ofParts, hp]
  by_cases hd : d = ""
  · simp [ofParts, hd]
  by_cases ht : t = ""
  · simp [ofParts, ht]
  have h : ofParts p d t = .ok ⟨p, d, t⟩ := by simp [ofParts, hp, hd, ht]
  rw [h]
  constructor
  · intro he
    exact ⟨(Except.ok.inj he).symm, hp, hd, ht⟩
  · rintro ⟨rfl, _⟩
    rfl

end TableReference
end WarehouseJobs
