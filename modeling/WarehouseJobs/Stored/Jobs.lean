-- The JSON forms in which we keep jobs. What is written reads back as the same value; a
-- project or a job without a name can be kept too.
import WarehouseJobs.Job
import WarehouseJobs.Json.Shape
import WarehouseJobs.Stored.Tables

namespace WarehouseJobs

open Json (fields? text? optional? orElse? list? ofOption optionalField)

/-! ## Words

A value that is stored by name is one of a few words, or a record whose only field is that word and
holds nothing. -/

namespace Stored

/-- The value that a word stands for. `nothing` tells what holds nothing. -/
def named? {α : Type} (ofName? : String → Option α) (nothing : Json → Bool) : Json → Option α
  | .text s => ofName? s
  | .record [(name, j)] => if nothing j then ofName? name else none
  | _ => none

/-- In JSON, only null holds nothing. -/
def isNull : Json → Bool
  | .null => true
  | _ => false

/-- In settings, empty tables and lists hold nothing. -/
def isEmpty : Json → Bool
  | .record [] => true
  | .list [] => true
  | _ => false

end Stored

/-! ## References -/

/-- Any text will do, also one that is refused where a name is asked for. -/
def ProjectId.ofJson? (j : Json) : Option ProjectId := (text? j).map ProjectId.mk

/-- Any text will do here too. -/
def JobId.ofJson? (j : Json) : Option JobId := (text? j).map JobId.mk

def JobReference.toJson (r : JobReference) : Json :=
  .record ([("project_id", .text r.project.text), ("job_id", .text r.id.text)] ++
    optionalField "location" .text r.location)

def JobReference.ofJson? (j : Json) : Option JobReference := do
  match ← fields? [("project_id", .refused), ("job_id", .refused), ("location", .default)] j with
  | [some project, some id, location] =>
    some ⟨← ProjectId.ofJson? project, ← JobId.ofJson? id,
      ← orElse? none (optional? text?) location⟩
  | _ => none

/-! ## Descriptions -/

def Destination.toJson (d : Destination) : Json := .text d.text

def Destination.ofJson? (j : Json) : Option Destination := do (ofText (← text? j)).toOption

def ExportFormat.toJson (f : ExportFormat) : Json := .text f.name

def ExportFormat.ofJson? (j : Json) : Option ExportFormat := Stored.named? ofName? Stored.isNull j

def Extract.toJson (e : Extract) : Json :=
  .record [("source_table", e.source.toJson),
    ("destination_uris", .list (e.destinations.map Destination.toJson)),
    ("destination_format", e.format.toJson)]

def Extract.ofJson? (j : Json) : Option Extract := do
  match ← fields? [("source_table", .refused), ("destination_uris", .refused),
      ("destination_format", .refused)] j with
  | [some source, some destinations, some format] =>
    some ⟨← TableReference.ofJson? source, ← list? Destination.ofJson? destinations,
      ← ExportFormat.ofJson? format⟩
  | _ => none

/-- A task is a record of one field, named for the kind of the task. -/
def JobTask.toJson : JobTask → Json
  | .extract details => .record [("extract", details.toJson)]

def JobTask.ofJson? : Json → Option JobTask
  | .record [(kind, details)] =>
    if kind = "extract" then (Extract.ofJson? details).map .extract else none
  | _ => none

def JobDescription.toJson (d : JobDescription) : Json :=
  .record [("reference", d.reference.toJson), ("configuration", d.task.toJson)]

def JobDescription.ofJson? (j : Json) : Option JobDescription := do
  match ← fields? [("reference", .refused), ("configuration", .refused)] j with
  | [some reference, some task] => some ⟨← JobReference.ofJson? reference, ← JobTask.ofJson? task⟩
  | _ => none

/-! ## Handles -/

def JobState.toJson (s : JobState) : Json := .text s.name

def JobState.ofJson? (j : Json) : Option JobState := Stored.named? ofName? Stored.isNull j

def JobErrorDetail.toJson (d : JobErrorDetail) : Json :=
  .record [("reason", ofOption .text d.reason), ("location", ofOption .text d.location),
    ("message", .text d.message)]

def JobErrorDetail.ofJson? (j : Json) : Option JobErrorDetail := do
  match ← fields? [("reason", .default), ("location", .default), ("message", .refused)] j with
  | [reason, location, some message] =>
    some ⟨← orElse? none (optional? text?) reason, ← orElse? none (optional? text?) location,
      ← text? message⟩
  | _ => none

def Instant.toJson (t : Instant) : Json := .text t.shown

def Instant.ofJson? (j : Json) : Option Instant := do ofText? (← text? j)

def JobStatistics.toJson (s : JobStatistics) : Json :=
  .record [("creation_time", ofOption Instant.toJson s.created),
    ("start_time", ofOption Instant.toJson s.started),
    ("end_time", ofOption Instant.toJson s.ended)]

def JobStatistics.ofJson? (j : Json) : Option JobStatistics := do
  match ← fields? [("creation_time", .null), ("start_time", .null), ("end_time", .null)] j with
  | [some created, some started, some ended] =>
    some ⟨← optional? Instant.ofJson? created, ← optional? Instant.ofJson? started,
      ← optional? Instant.ofJson? ended⟩
  | _ => none

def JobHandle.toJson (h : JobHandle) : Json :=
  .record [("reference", h.reference.toJson), ("state", h.state.toJson),
    ("error_result", ofOption JobErrorDetail.toJson h.errorResult),
    ("errors", .list (h.errors.map JobErrorDetail.toJson)),
    ("statistics", ofOption JobStatistics.toJson h.statistics)]

def JobHandle.ofJson? (j : Json) : Option JobHandle := do
  match ← fields? [("reference", .refused), ("state", .refused), ("error_result", .default),
      ("errors", .default), ("statistics", .default)] j with
  | [some reference, some state, errorResult, errors, statistics] =>
    some
      { reference := ← JobReference.ofJson? reference
        state := ← JobState.ofJson? state
        errorResult := ← orElse? none (optional? JobErrorDetail.ofJson?) errorResult
        errors := ← orElse? [] (list? JobErrorDetail.ofJson?) errors
        statistics := ← orElse? none (optional? JobStatistics.ofJson?) statistics }
  | _ => none

end WarehouseJobs
