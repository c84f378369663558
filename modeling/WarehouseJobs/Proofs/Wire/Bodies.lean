-- What a request to create a job says. Whoever reads its body gets back the job as it was
-- asked for, and with it the identity that the service keeps jobs apart by.
import WarehouseJobs.Wire.Jobs

namespace WarehouseJobs.Wire

open Json (fields? text? optional? orElse? list?)

/-! ## Parts of a body -/

theorem text?_text (s : String) : text? (.text s) = some s := rfl

theorem list?_map_of_mem {α : Type} {read : Json → Option α} {write : α → Json} {as : List α}
    (h : ∀ a ∈ as, read (write a) = some a) : list? read (.list (as.map write)) = some as := by
  show (as.map write).mapM read = some as
  induction as with
  | nil => rfl
  | cons a as ih =>
    obtain ⟨ha, has⟩ := List.forall_mem_cons.mp h
    simp [List.mapM_cons, ha, ih has]

theorem list?_map {α : Type} {read : Json → Option α} {write : α → Json}
    (h : ∀ a, read (write a) = some a) (as : List α) :
    list? read (.list (as.map write)) = some as := list?_map_of_mem fun a _ => h a

theorem tableName?_tableName (t : TableReference) : tableName? (tableName t) = some t := rfl

theorem format_ofJson?_toJson (f : ExportFormat) : ExportFormat.ofJson? f.toJson = some f :=
  ExportFormat.ofName?_name f

theorem JobName.ofJson?_toJson (n : JobName) : ofJson? n.toJson = some n := by
  obtain ⟨project, id, location⟩ := n
  cases location <;> rfl

theorem ExtractTask.ofJson?_toJson (t : ExtractTask) : ofJson? t.toJson = some t := by
  obtain ⟨source, destinations, format⟩ := t
  have hfields : fields? [("sourceTable", .refused), ("destinationUris", .refused),
      ("destinationFormat", .refused)] (toJson ⟨source, destinations, format⟩) =
      some [some (tableName source), some (.list (destinations.map .text)),
        some format.toJson] := rfl
  unfold ofJson?
  simp only [hfields, Option.bind_eq_bind, Option.bind_some, tableName?_tableName,
    list?_map text?_text, format_ofJson?_toJson]

theorem task?_taskToJson (t : ExtractTask) : task? (taskToJson (some t)) = some (some t) := by
  have hfields : fields? [("extract", .default)] (taskToJson (some t)) =
      some [some t.toJson] := rfl
  have hsome : optional? ExtractTask.ofJson? t.toJson = some (some t) := by
    show (ExtractTask.ofJson? t.toJson).map some = some (some t)
    rw [ExtractTask.ofJson?_toJson]
    rfl
  unfold task?
  simp only [hfields, Option.bind_eq_bind, Option.bind_some, orElse?, hsome]

/-! ## The body -/

/-- The body of a request to create a job reads back as what was written. -/
theorem Job.ofJson?_ofDescription (d : JobDescription) :
    ofJson? (ofDescription d).toJson = some (ofDescription d) := by
  obtain ⟨⟨project, id, location⟩, ⟨source, destinations, format⟩⟩ := d
  let name : JobName := ⟨project.text, id.text, location⟩
  let task : ExtractTask := ⟨source, destinations.map Destination.text, format⟩
  have hfields : fields? [("jobReference", .default), ("configuration", .default),
      ("status", .default), ("statistics", .default)]
      (toJson { name := some name, extract := some task }) =
      some [some name.toJson, some (taskToJson (some task)), none, none] := rfl
  have hname : optional? JobName.ofJson? name.toJson = some (some name) := by
    show (JobName.ofJson? name.toJson).map some = some (some name)
    rw [JobName.ofJson?_toJson]
    rfl
  show ofJson? (toJson { name := some name, extract := some task }) = _
  unfold ofJson?
  simp only [hfields, Option.bind_eq_bind, Option.bind_some, orElse?, hname, task?_taskToJson]
  rfl

/-- The job that a body asks to create: its project and its id. -/
def named? (body : Option Json) : Option (String × String) :=
  ((body.bind Job.ofJson?).bind Job.name).map fun n => (n.project, n.id)

theorem named?_ofDescription (d : JobDescription) :
    named? (some (Job.ofDescription d).toJson) =
      some (d.reference.project.text, d.reference.id.text) := by
  obtain ⟨reference, ⟨e⟩⟩ := d
  unfold named?
  rw [Option.bind_some, Job.ofJson?_ofDescription]
  rfl

end WarehouseJobs.Wire
