-- What the JSON forms of jobs and tables have in common: a value is written as a text and read
-- again, and nothing of it is lost. A request tells two descriptions apart, and what is kept of a
-- schema is a schema on the wire, too.
import WarehouseJobs.Proofs.Stored.Tables

namespace WarehouseJobs

open Json (IsPlain ArePlain HavePlain fields? optional? orElse? ofOption optionalField)

/-! ## The body of a request to create a job -/

theorem Wire.Job.isPlain_ofDescription (d : JobDescription) :
    (Wire.Job.ofDescription d).toJson.IsPlain := by
  obtain ⟨⟨project, id, location⟩, ⟨source, destinations, format⟩⟩ := d
  have hdestinations : ArePlain ((destinations.map Destination.text).map Json.text) :=
    Json.arePlain_map fun _ _ => trivial
  cases location <;>
    simp [Wire.Job.ofDescription, Wire.Job.toJson, Wire.JobName.toJson, Wire.taskToJson,
      Wire.ExtractTask.toJson, Wire.tableName, ExportFormat.toJson, optionalField, IsPlain,
      HavePlain, -List.map_map, hdestinations]

theorem Destination.IsProper.eq_of_text {d d' : Destination} (hd : d.IsProper) (hd' : d'.IsProper)
    (h : d.text = d'.text) : d = d' := by
  unfold IsProper at hd hd'
  rw [h, hd'] at hd
  exact (Except.ok.inj hd).symm

theorem destinations_eq_of_texts {ds ds' : List Destination} (hds : ∀ d ∈ ds, d.IsProper)
    (hds' : ∀ d ∈ ds', d.IsProper)
    (h : ds.map Destination.text = ds'.map Destination.text) : ds = ds' := by
  induction ds generalizing ds' with
  | nil => exact (List.map_eq_nil_iff.mp h.symm).symm
  | cons d ds ih =>
    cases ds' with
    | nil => cases h
    | cons d' ds' =>
      obtain ⟨hd, hds⟩ := List.forall_mem_cons.mp hds
      obtain ⟨hd', hds'⟩ := List.forall_mem_cons.mp hds'
      obtain ⟨htext, htexts⟩ := List.cons.inj h
      rw [hd.eq_of_text hd' htext, ih hds hds' htexts]

/-- What is sent tells two descriptions apart. -/
theorem JobDescription.eq_of_ofDescription {d d' : JobDescription} (hd : d.IsProper)
    (hd' : d'.IsProper) (h : Wire.Job.ofDescription d = Wire.Job.ofDescription d') : d = d' := by
  obtain ⟨⟨⟨project⟩, ⟨id⟩, location⟩, ⟨source, destinations, format⟩⟩ := d
  obtain ⟨⟨⟨project'⟩, ⟨id'⟩, location'⟩, ⟨source', destinations', format'⟩⟩ := d'
  simp only [Wire.Job.ofDescription, Wire.Job.mk.injEq, Option.some.injEq, Wire.JobName.mk.injEq,
    Wire.ExtractTask.mk.injEq, and_true] at h
  obtain ⟨⟨rfl, rfl, rfl⟩, rfl, htexts, rfl⟩ := h
  obtain rfl : destinations = destinations' := destinations_eq_of_texts hd hd' htexts
  rfl

theorem JobDescription.eq_of_body {d d' : JobDescription} (hd : d.IsProper) (hd' : d'.IsProper)
    (h : (Wire.Job.ofDescription d).toJson.write = (Wire.Job.ofDescription d').toJson.write) :
    d = d' := by
  have hjson := Json.write_injective (Wire.Job.isPlain_ofDescription d)
    (Wire.Job.isPlain_ofDescription d') h
  have hread := Wire.Job.ofJson?_ofDescription d
  rw [hjson, Wire.Job.ofJson?_ofDescription] at hread
  exact JobDescription.eq_of_ofDescription hd hd' (Option.some.inj hread).symm

/-! ## A kept schema on the wire -/

/-- The body of an answer that shows a table, with the schema in the form in which it is kept. -/
def Wire.shownTable (name : TableReference) (schema : TableSchema) (rows : Option String) : Json :=
  .record [("tableReference", tableName name), ("schema", schema.toJson),
    ("numRows", ofOption .text rows)]

theorem Wire.isPlain_shownTable (name : TableReference) (schema : TableSchema)
    (rows : Option String) : (Wire.shownTable name schema rows).IsPlain := by
  have hrows : (ofOption Json.text rows).IsPlain := Json.isPlain_ofOption fun _ _ => trivial
  simp [Wire.shownTable, Wire.tableName, IsPlain, HavePlain, schema.isPlain_toJson, hrows]

theorem Wire.TableInfo.ofJson?_shownTable {name : TableReference} {schema : TableSchema}
    {rows : Option String} (h : (Wire.shownTable name schema rows).depth ≤ nestingLimit) :
    ofJson? (Wire.shownTable name schema rows) = some ⟨name, some schema, rows⟩ := by
  have hfields : fields? [("tableReference", .refused), ("schema", .default),
      ("numRows", .default)] (Wire.shownTable name schema rows) =
      some [some (Wire.tableName name), some (ofOption TableSchema.toJson (some schema)),
        some (ofOption .text rows)] := rfl
  have hschema : (ofOption TableSchema.toJson (some schema)).depth ≤ nestingLimit - 1 := by
    simp only [Wire.shownTable, Json.depth, Json.depthFields] at h
    show schema.toJson.depth ≤ _
    omega
  unfold ofJson?
  simp only [hfields, Option.bind_eq_bind, Option.bind_some, Wire.tableName?_tableName, orElse?,
    optional?_schema hschema, Json.optional?_text]

/-! ## All forms -/

/-- References, descriptions, handles and tables read back from their texts as they were, a table
as long as its text is not nested too deep. The body of a request says who asks for what, so no two
descriptions have the same one. And a schema in the form in which it is kept is the same schema to
who reads it off the wire. -/
theorem forms_lose_nothing :
    (∀ r : JobReference, Json.again? JobReference.ofJson? r.toJson = some r) ∧
    (∀ d : JobDescription, d.IsProper → Json.again? JobDescription.ofJson? d.toJson = some d) ∧
    (∀ h : JobHandle, h.IsProper → Json.again? JobHandle.ofJson? h.toJson = some h) ∧
    (∀ t : Table, t.toJson.depth ≤ nestingLimit →
      Json.again? Table.ofJson? t.toJson = some t) ∧
    (∀ (reference : JobReference) (e : Extract), ∃ job,
      Json.again? Wire.Job.ofJson? (Wire.Job.ofDescription ⟨reference, .extract e⟩).toJson =
        some job ∧
      job.name = some ⟨reference.project.text, reference.id.text, reference.location⟩ ∧
      job.extract = some ⟨e.source, e.destinations.map Destination.text, e.format⟩) ∧
    (∀ d d' : JobDescription, d.IsProper → d'.IsProper → d ≠ d' →
      (Wire.Job.ofDescription d).toJson.write ≠ (Wire.Job.ofDescription d').toJson.write) ∧
    (∀ name schema rows, (Wire.shownTable name schema rows).depth ≤ nestingLimit → ∃ info,
      Json.again? Wire.TableInfo.ofJson? (Wire.shownTable name schema rows) = some info ∧
      ∀ status reference, TableReference.ofParts name.project name.dataset name.table =
        .ok reference → ∃ table, info.table status = .ok table ∧ table.schema = some schema) := by
  refine ⟨fun r => ?_, fun d hd => ?_, fun h hh => ?_, fun t ht => ?_, fun reference e => ?_,
    fun d d' hd hd' hne hbody => hne (JobDescription.eq_of_body hd hd' hbody),
    fun name schema rows hdepth => ?_⟩
  · rw [Json.again?_of_isPlain r.isPlain_toJson, r.ofJson?_toJson]
  · rw [Json.again?_of_isPlain d.isPlain_toJson, JobDescription.ofJson?_toJson hd]
  · rw [Json.again?_of_isPlain h.isPlain_toJson, JobHandle.ofJson?_toJson hh]
  · rw [Json.again?_of_isPlain t.isPlain_toJson, Table.ofJson?_toJson ht]
  · refine ⟨Wire.Job.ofDescription ⟨reference, .extract e⟩, ?_, rfl, rfl⟩
    rw [Json.again?_of_isPlain (Wire.Job.isPlain_ofDescription _),
      Wire.Job.ofJson?_ofDescription]
  · refine ⟨⟨name, some schema, rows⟩, ?_, fun status reference hname => ?_⟩
    · rw [Json.again?_of_isPlain (Wire.isPlain_shownTable name schema rows),
        Wire.TableInfo.ofJson?_shownTable hdepth]
    · refine ⟨{ reference, schema := some schema, rows := rows.bind Text.uint64? }, ?_, rfl⟩
      unfold Wire.TableInfo.table
      rw [hname]

end WarehouseJobs
