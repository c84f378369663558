-- The JSON forms of jobs lose nothing: the description and the handle of a job read back as they
-- were written.
import WarehouseJobs.Proofs.Json.Texts
import WarehouseJobs.Proofs.Time.Instants
import WarehouseJobs.Proofs.Wire.Bodies
import WarehouseJobs.Stored.Jobs

namespace WarehouseJobs

open Json (IsPlain ArePlain HavePlain fields? text? optional? orElse? list? ofOption optionalField)

variable {α : Type} {read : Json → Option α} {write : α → Json}

namespace Json

/-- What comes of a value that is written as a text, and read from it. -/
def again? (read : Json → Option α) (j : Json) : Option α := (ofText? j.write).bind read

theorem again?_of_isPlain {j : Json} (hj : j.IsPlain) : again? read j = read j := by
  rw [again?, ofText?_write hj, Option.bind_some]

/-! ## Options and lists -/

theorem optional?_ofOption {o : Option α} (h : ∀ a ∈ o, read (write a) = some a)
    (hnull : ∀ a, write a ≠ .null) : optional? read (ofOption write o) = some o := by
  cases o with
  | none => rfl
  | some a =>
    have hsome : optional? read (write a) = (read (write a)).map some := by
      rw [optional?.eq_def]
      split
      · exact absurd ‹_› (hnull a)
      · rfl
    show optional? read (write a) = _
    rw [hsome, h a rfl]
    rfl

theorem optional?_text (o : Option String) : optional? text? (ofOption .text o) = some o :=
  optional?_ofOption (fun _ _ => rfl) fun _ => nofun

theorem isPlain_ofOption {o : Option α} (h : ∀ a ∈ o, (write a).IsPlain) :
    (ofOption write o).IsPlain := by
  cases o with
  | none => trivial
  | some a => exact h a rfl

theorem arePlain_map {as : List α} (h : ∀ a ∈ as, (write a).IsPlain) :
    ArePlain (as.map write) := by
  induction as with
  | nil => trivial
  | cons a as ih =>
    obtain ⟨ha, has⟩ := List.forall_mem_cons.mp h
    exact ⟨ha, ih has⟩

end Json

/-! ## References -/

theorem JobReference.ofJson?_toJson (r : JobReference) : ofJson? r.toJson = some r := by
  obtain ⟨project, id, location⟩ := r
  cases location <;> rfl

theorem JobReference.isPlain_toJson (r : JobReference) : r.toJson.IsPlain := by
  obtain ⟨project, id, location⟩ := r
  cases location <;> simp [toJson, optionalField, IsPlain, HavePlain]

theorem TableReference.ofJson?_toJson (t : TableReference) : ofJson? t.toJson = some t := rfl

theorem TableReference.isPlain_toJson (t : TableReference) : t.toJson.IsPlain := by
  simp [toJson, IsPlain, HavePlain]

/-! ## Descriptions -/

/-- A destination that was read from its text. -/
def Destination.IsProper (d : Destination) : Prop := ofText d.text = .ok d

theorem Destination.ofJson?_toJson {d : Destination} (hd : d.IsProper) :
    ofJson? d.toJson = some d := by
  show (ofText d.text).toOption = some d
  rw [hd]
  rfl

/-- A description whose destinations were read from their texts. -/
def JobDescription.IsProper (d : JobDescription) : Prop :=
  match d.task with
  | .extract e => ∀ destination ∈ e.destinations, destination.IsProper

theorem Extract.ofJson?_toJson {e : Extract} (he : ∀ d ∈ e.destinations, d.IsProper) :
    ofJson? e.toJson = some e := by
  obtain ⟨source, destinations, format⟩ := e
  have hfields : fields? [("source_table", .refused), ("destination_uris", .refused),
      ("destination_format", .refused)] (toJson ⟨source, destinations, format⟩) =
      some [some source.toJson, some (.list (destinations.map Destination.toJson)),
        some format.toJson] := rfl
  have hdestinations : list? Destination.ofJson? (.list (destinations.map Destination.toJson)) =
      some destinations :=
    Wire.list?_map_of_mem fun d hd => Destination.ofJson?_toJson (he d hd)
  unfold ofJson?
  simp only [hfields, Option.bind_eq_bind, Option.bind_some, TableReference.ofJson?_toJson,
    hdestinations, Wire.format_ofJson?_toJson]

theorem JobDescription.ofJson?_toJson {d : JobDescription} (hd : d.IsProper) :
    ofJson? d.toJson = some d := by
  obtain ⟨reference, ⟨e⟩⟩ := d
  have hfields : fields? [("reference", .refused), ("configuration", .refused)]
      (toJson ⟨reference, .extract e⟩) =
      some [some reference.toJson, some (JobTask.extract e).toJson] := rfl
  have htask : JobTask.ofJson? (JobTask.extract e).toJson = some (.extract e) := by
    show (Extract.ofJson? e.toJson).map JobTask.extract = _
    rw [Extract.ofJson?_toJson hd]
    rfl
  unfold ofJson?
  simp only [hfields, Option.bind_eq_bind, Option.bind_some, JobReference.ofJson?_toJson, htask]

theorem JobDescription.isPlain_toJson (d : JobDescription) : d.toJson.IsPlain := by
  obtain ⟨reference, ⟨source, destinations, format⟩⟩ := d
  have hdestinations : ArePlain (destinations.map Destination.toJson) :=
    Json.arePlain_map fun d _ => trivial
  simp [toJson, JobTask.toJson, Extract.toJson, ExportFormat.toJson, IsPlain, HavePlain,
    reference.isPlain_toJson, source.isPlain_toJson, hdestinations]

/-! ## Handles -/

theorem Instant.ofJson?_toJson {t : Instant} (ht : t.IsProper) : ofJson? t.toJson = some t := by
  simp only [ofJson?, toJson, text?, Option.bind_eq_bind, Option.bind_some, ofText?_shown ht]

/-- Statistics whose times can be kept. -/
structure JobStatistics.IsProper (s : JobStatistics) : Prop where
  created : ∀ t ∈ s.created, t.IsProper
  started : ∀ t ∈ s.started, t.IsProper
  ended : ∀ t ∈ s.ended, t.IsProper

def JobHandle.IsProper (h : JobHandle) : Prop := ∀ s ∈ h.statistics, s.IsProper

theorem JobState.ofJson?_toJson (s : JobState) : ofJson? s.toJson = some s := ofName?_name s

theorem JobErrorDetail.ofJson?_toJson (d : JobErrorDetail) : ofJson? d.toJson = some d := by
  have hfields : fields? [("reason", .default), ("location", .default), ("message", .refused)]
      d.toJson = some [some (ofOption .text d.reason), some (ofOption .text d.location),
        some (.text d.message)] := rfl
  unfold ofJson?
  simp only [hfields, Option.bind_eq_bind, Option.bind_some, orElse?, Json.optional?_text,
    Wire.text?_text]

theorem JobStatistics.ofJson?_toJson {s : JobStatistics} (hs : s.IsProper) :
    ofJson? s.toJson = some s := by
  have hfields : fields? [("creation_time", .null), ("start_time", .null), ("end_time", .null)]
      s.toJson = some [some (ofOption Instant.toJson s.created),
        some (ofOption Instant.toJson s.started), some (ofOption Instant.toJson s.ended)] := rfl
  have hread : ∀ o : Option Instant, (∀ t ∈ o, t.IsProper) →
      optional? Instant.ofJson? (ofOption Instant.toJson o) = some o := fun o ho =>
    Json.optional?_ofOption (fun t ht => Instant.ofJson?_toJson (ho t ht)) fun _ => nofun
  unfold ofJson?
  simp only [hfields, Option.bind_eq_bind, Option.bind_some, hread _ hs.created,
    hread _ hs.started, hread _ hs.ended]

theorem JobHandle.ofJson?_toJson {h : JobHandle} (hh : h.IsProper) :
    ofJson? h.toJson = some h := by
  have hfields : fields? [("reference", .refused), ("state", .refused),
      ("error_result", .default), ("errors", .default), ("statistics", .default)] h.toJson =
      some [some h.reference.toJson, some h.state.toJson,
        some (ofOption JobErrorDetail.toJson h.errorResult),
        some (.list (h.errors.map JobErrorDetail.toJson)),
        some (ofOption JobStatistics.toJson h.statistics)] := rfl
  have herror : optional? JobErrorDetail.ofJson? (ofOption JobErrorDetail.toJson h.errorResult) =
      some h.errorResult :=
    Json.optional?_ofOption (fun d _ => d.ofJson?_toJson) fun _ => nofun
  have hstatistics : optional? JobStatistics.ofJson?
      (ofOption JobStatistics.toJson h.statistics) = some h.statistics :=
    Json.optional?_ofOption (fun s hs => JobStatistics.ofJson?_toJson (hh s hs)) fun _ => nofun
  unfold ofJson?
  simp only [hfields, Option.bind_eq_bind, Option.bind_some, JobReference.ofJson?_toJson,
    JobState.ofJson?_toJson, orElse?, herror, Wire.list?_map JobErrorDetail.ofJson?_toJson,
    hstatistics]

theorem JobErrorDetail.isPlain_toJson (d : JobErrorDetail) : d.toJson.IsPlain := by
  have htext : ∀ o : Option String, (ofOption Json.text o).IsPlain := fun o =>
    Json.isPlain_ofOption fun _ _ => trivial
  simp [toJson, IsPlain, HavePlain, htext]

theorem JobStatistics.isPlain_toJson (s : JobStatistics) : s.toJson.IsPlain := by
  have htime : ∀ o : Option Instant, (ofOption Instant.toJson o).IsPlain := fun o =>
    Json.isPlain_ofOption fun _ _ => trivial
  simp [toJson, IsPlain, HavePlain, htime]

theorem JobHandle.isPlain_toJson (h : JobHandle) : h.toJson.IsPlain := by
  have herror : (ofOption JobErrorDetail.toJson h.errorResult).IsPlain :=
    Json.isPlain_ofOption fun d _ => d.isPlain_toJson
  have herrors : ArePlain (h.errors.map JobErrorDetail.toJson) :=
    Json.arePlain_map fun d _ => d.isPlain_toJson
  have hstatistics : (ofOption JobStatistics.toJson h.statistics).IsPlain :=
    Json.isPlain_ofOption fun s _ => s.isPlain_toJson
  simp [toJson, JobState.toJson, IsPlain, HavePlain, h.reference.isPlain_toJson, herror, herrors,
    hstatistics]

end WarehouseJobs
