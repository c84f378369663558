-- The formats a table can be exported in.

namespace WarehouseJobs

inductive ExportFormat where
  /-- One JSON object a line. -/
  | jsonLines
  | csv
  | avro
  | parquet
deriving DecidableEq, Repr, Inhabited

namespace ExportFormat

/-- The name on the wire and in settings. -/
def name : ExportFormat → String
  | .jsonLines => "NEWLINE_DELIMITED_JSON"
  | .csv => "CSV"
  | .avro => "AVRO"
  | .parquet => "PARQUET"

def all : List ExportFormat := [.jsonLines, .csv, .avro, .parquet]

/-- The format of exactly this name. -/
def ofName? (s : String) : Option ExportFormat := all.find? fun f => f.name = s

/-- One character of a name that a person wrote: letters in upper case, underscores for
hyphens. -/
def plainChar (c : Char) : Char := if c = '-' then '_' else c.toUpper

/-- Reads a name that a person wrote; `json` is short for JSON lines. -/
def ofText? (s : String) : Option ExportFormat :=
  let plain := String.ofList (s.toList.map plainChar)
  if plain = "JSON" then some .jsonLines else ofName? plain

def unknownMessage (s : String) : String :=
  "Invalid destination format '" ++ s ++
    "'. Must be one of: NEWLINE_DELIMITED_JSON, CSV, AVRO, PARQUET"

theorem ofName?_name (f : ExportFormat) : ofName? f.name = some f := by
  cases f <;> decide

end ExportFormat
end WarehouseJobs
