-- Where the names of projects, jobs and tables come from, and which of these ways see to it that
-- a name says something. Names that are given, issued or answered are checked, each in one place;
-- a stored form is taken as it is.
import WarehouseJobs.CommandLine.Commands
import WarehouseJobs.Json.Reader
import WarehouseJobs.Proofs.Settings.IssuedIds

namespace WarehouseJobs

/-! ## Names that say something -/

/-- Not all of it is white space. -/
def ProjectId.Proper (p : ProjectId) : Prop := ∃ c ∈ p.text.toList, Text.isBlankChar c = false

def JobId.Proper (id : JobId) : Prop := id.text ≠ ""

structure TableReference.Proper (t : TableReference) : Prop where
  project : t.project ≠ ""
  dataset : t.dataset ≠ ""
  table : t.table ≠ ""

theorem ProjectId.proper_iff (p : ProjectId) : p.Proper ↔ Text.isBlank p.text = false := by
  unfold Proper Text.isBlank
  rw [List.all_eq_false]
  simp only [Bool.not_eq_true]

theorem ProjectId.ofText_eq_ok_iff {s : String} {p : ProjectId} :
    ofText s = .ok p ↔ p = ⟨s⟩ ∧ p.Proper := by
  rw [proper_iff]
  unfold ofText
  cases hblank : Text.isBlank s with
  | true =>
    simp only [if_true, reduceCtorEq, false_iff, not_and]
    rintro rfl
    simp [hblank]
  | false =>
    simp only [Bool.false_eq_true, if_false, Except.ok.injEq]
    constructor
    · rintro rfl
      exact ⟨rfl, hblank⟩
    · rintro ⟨rfl, -⟩
      rfl

theorem JobId.ofText_eq_ok_iff {s : String} {id : JobId} :
    ofText s = .ok id ↔ id = ⟨s⟩ ∧ id.Proper := by
  unfold ofText Proper
  by_cases hempty : s = ""
  · subst hempty
    rw [if_pos (by decide)]
    simp only [reduceCtorEq, false_iff, not_and]
    rintro rfl hproper
    exact hproper rfl
  · rw [if_neg (by simpa using hempty), Except.ok.injEq]
    constructor
    · rintro rfl
      exact ⟨rfl, hempty⟩
    · rintro ⟨rfl, -⟩
      rfl

theorem TableReference.ofParts_proper {p d t : String} {r : TableReference}
    (h : ofParts p d t = .ok r) : r.Proper := by
  obtain ⟨rfl, hp, hd, ht⟩ := ofParts_eq_ok_iff.mp h
  exact ⟨hp, hd, ht⟩

theorem TableReference.ofText_proper {s : String} {r : TableReference} (h : ofText s = .ok r) :
    r.Proper := by
  unfold ofText at h
  split at h
  · split at h
    · exact ofParts_proper h
    · cases h
  · split at h
    · exact ofParts_proper h
    · cases h

/-! ## Where names come from -/

/-- All names in a result. -/
structure Names where
  projects : List ProjectId := []
  ids : List JobId := []
  tables : List TableReference := []
deriving DecidableEq

structure Names.Proper (names : Names) : Prop where
  projects : ∀ p ∈ names.projects, p.Proper
  ids : ∀ id ∈ names.ids, id.Proper
  tables : ∀ t ∈ names.tables, t.Proper

def JobReference.names (r : JobReference) : Names := { projects := [r.project], ids := [r.id] }

def JobDescription.names (d : JobDescription) : Names :=
  match d.task with
  | .extract e => { d.reference.names with tables := [e.source] }

theorem Names.Proper.of_project {p : ProjectId} (h : p.Proper) :
    Names.Proper { projects := [p] } :=
  ⟨List.forall_mem_singleton.mpr h, nofun, nofun⟩

theorem Names.Proper.of_id {id : JobId} (h : id.Proper) : Names.Proper { ids := [id] } :=
  ⟨nofun, List.forall_mem_singleton.mpr h, nofun⟩

theorem Names.Proper.of_table {t : TableReference} (h : t.Proper) :
    Names.Proper { tables := [t] } :=
  ⟨nofun, nofun, List.forall_mem_singleton.mpr h⟩

theorem Names.Proper.of_reference {r : JobReference} (hproject : r.project.Proper)
    (hid : r.id.Proper) : r.names.Proper :=
  ⟨List.forall_mem_singleton.mpr hproject, List.forall_mem_singleton.mpr hid, nofun⟩

/-- The ways to come by names, but for reading them from a stored form. -/
inductive NameSource where
  | project (given : String)
  | id (given : String)
  | table (given : String)
  | tableParts (project dataset table : String)
  | issued (rules : IdRules) (project idPrefix : String) (u : Uuid)
  | answeredJob (job : Wire.Job) (status : UInt16)
  | answeredTable (table : Wire.TableInfo) (status : UInt16)
  | projectArgument (given : Option String) (s : Settings)
  | exportArguments (args : ExportArguments) (s : Settings)
  | statusArguments (args : StatusArguments) (s : Settings)

/-- The names that a way gives, if it does. -/
def NameSource.gives : NameSource → Option Names
  | .project given => (ProjectId.ofText given).toOption.map fun p => { projects := [p] }
  | .id given => (JobId.ofText given).toOption.map fun id => { ids := [id] }
  | .table given => (TableReference.ofText given).toOption.map fun t => { tables := [t] }
  | .tableParts p d t => (TableReference.ofParts p d t).toOption.map fun t => { tables := [t] }
  | .issued rules owner idPrefix u =>
    (rules.generate owner idPrefix u).toOption.map JobReference.names
  | .answeredJob job status => (job.handle status).toOption.map fun h => h.reference.names
  | .answeredTable info status =>
    (info.table status).toOption.map fun t => { tables := [t.reference] }
  | .projectArgument given s => (Command.project given s).toOption.map fun p => { projects := [p] }
  | .exportArguments args s => (Command.Export.plan args s).toOption.map fun plan =>
    { projects := [plan.project], tables := [plan.source] }
  | .statusArguments args s => (Command.Status.reference args s).toOption.map JobReference.names

theorem gives_iff {ε α : Type} {result : Except ε α} {give : α → Names} {names : Names} :
    result.toOption.map give = some names ↔ ∃ a, result = .ok a ∧ give a = names := by
  cases result with
  | ok a => simp [Except.toOption]
  | error fault => simp [Except.toOption]

/-! ## Each way sees to its names -/

/-- All that is asked of an id with this prefix and this random part. -/
structure IdRules.Admits (rules : IdRules) (project idPrefix : String) (u : Uuid) : Prop where
  named : Text.isBlank project = false
  nonempty : idPrefix ≠ ""
  lead : rules.accepts idPrefix = true
  short : (newId idPrefix u).length ≤ rules.maxLength.toNat
  whole : rules.accepts (newId idPrefix u) = true

theorem IdRules.generate_eq_ok_iff {rules : IdRules} {project idPrefix : String} {u : Uuid}
    {r : JobReference} : rules.generate project idPrefix u = .ok r ↔
    rules.Admits project idPrefix u ∧ r = { project := ⟨project⟩, id := ⟨newId idPrefix u⟩ } := by
  unfold generate checkPrefix ProjectId.ofText
  constructor
  · intro h
    by_cases hnamed : Text.isBlank project = true
    · simp [hnamed] at h
    by_cases hempty : idPrefix.isEmpty = true
    · simp [hnamed, hempty] at h
    by_cases hlead : rules.accepts idPrefix = true
    · by_cases hlong : rules.maxLength.toNat < (newId idPrefix u).length
      · simp [hnamed, hempty, hlead, hlong] at h
      by_cases hwhole : rules.accepts (newId idPrefix u) = true
      · simp [hnamed, hempty, hlead, hlong, hwhole] at h
        have hnonempty : idPrefix ≠ "" := fun h => hempty (String.isEmpty_iff.mpr h)
        exact ⟨⟨eq_false_of_ne_true hnamed, hnonempty, hlead, Nat.le_of_not_lt hlong, hwhole⟩,
          h.symm⟩
      · simp [hnamed, hempty, hlead, hlong, hwhole] at h
    · simp [hnamed, hempty, hlead] at h
  · rintro ⟨⟨hnamed, hnonempty, hlead, hshort, hwhole⟩, rfl⟩
    simp [hnamed, hnonempty, hlead, Nat.not_lt.mpr hshort, hwhole]

theorem IdRules.generate_proper {rules : IdRules} {owner idPrefix : String} {u : Uuid}
    {r : JobReference} (h : rules.generate owner idPrefix u = .ok r) : r.names.Proper := by
  obtain ⟨hadmits, rfl⟩ := generate_eq_ok_iff.mp h
  refine .of_reference ((ProjectId.proper_iff _).mpr hadmits.named) fun hempty => ?_
  have hid := newId_ne_empty idPrefix u
  rw [show newId idPrefix u = "" from hempty] at hid
  cases hid

theorem Wire.JobName.reference_proper {name : JobName} {r : JobReference}
    (h : name.reference = .ok r) : r.names.Proper := by
  unfold reference at h
  split at h
  · cases h
  rename_i project hproject
  split at h
  · cases h
  rename_i id hid
  cases h
  exact .of_reference (ProjectId.ofText_eq_ok_iff.mp hproject).2 (JobId.ofText_eq_ok_iff.mp hid).2

theorem Wire.Job.handle_proper {job : Job} {status : UInt16} {handle : JobHandle}
    (h : job.handle status = .ok handle) : handle.reference.names.Proper := by
  unfold Job.handle at h
  split at h
  · cases h
  split at h
  · cases h
  rename_i reference hreference
  simp only at h
  split at h
  · cases h
  cases h
  exact Wire.JobName.reference_proper hreference

theorem Wire.TableInfo.table_proper {info : TableInfo} {status : UInt16} {table : Table}
    (h : info.table status = .ok table) : table.reference.Proper := by
  unfold TableInfo.table at h
  split at h
  · cases h
  rename_i reference hreference
  cases h
  exact TableReference.ofParts_proper hreference

namespace Command

variable {s : Settings} {p : ProjectId}

theorem project_proper {given : Option String} (h : project given s = .ok p) : p.Proper := by
  unfold project at h
  split at h
  · cases h
  split at h
  · rename_i named hnamed
    cases h
    exact (ProjectId.ofText_eq_ok_iff.mp hnamed).2
  · cases h

theorem Export.plan_proper {args : ExportArguments} {plan : Export.Plan}
    (h : Export.plan args s = .ok plan) :
    Names.Proper { projects := [plan.project], tables := [plan.source] } := by
  unfold Export.plan at h
  split at h
  · cases h
  rename_i project hproject
  split at h
  · cases h
  rename_i source hsource
  split at h
  · cases h
  cases h
  exact ⟨List.forall_mem_singleton.mpr (project_proper hproject), nofun,
    List.forall_mem_singleton.mpr (TableReference.ofText_proper hsource)⟩

theorem Status.reference_proper {args : StatusArguments} {r : JobReference}
    (h : Status.reference args s = .ok r) : r.names.Proper := by
  unfold Status.reference at h
  split at h
  · cases h
  rename_i project hproject
  split at h
  · cases h
  rename_i id hid
  cases h
  exact .of_reference (project_proper hproject) (JobId.ofText_eq_ok_iff.mp hid).2

end Command

theorem NameSource.proper_of_gives {source : NameSource} {names : Names}
    (h : source.gives = some names) : names.Proper := by
  cases source with
  | project given =>
    obtain ⟨p, hp, rfl⟩ := gives_iff.mp h
    exact .of_project (ProjectId.ofText_eq_ok_iff.mp hp).2
  | id given =>
    obtain ⟨id, hid, rfl⟩ := gives_iff.mp h
    exact .of_id (JobId.ofText_eq_ok_iff.mp hid).2
  | table given =>
    obtain ⟨t, ht, rfl⟩ := gives_iff.mp h
    exact .of_table (TableReference.ofText_proper ht)
  | tableParts p d t =>
    obtain ⟨t, ht, rfl⟩ := gives_iff.mp h
    exact .of_table (TableReference.ofParts_proper ht)
  | issued rules owner idPrefix u =>
    obtain ⟨r, hr, rfl⟩ := gives_iff.mp h
    exact IdRules.generate_proper hr
  | answeredJob job status =>
    obtain ⟨handle, hhandle, rfl⟩ := gives_iff.mp h
    exact Wire.Job.handle_proper hhandle
  | answeredTable info status =>
    obtain ⟨table, htable, rfl⟩ := gives_iff.mp h
    exact .of_table (Wire.TableInfo.table_proper htable)
  | projectArgument given s =>
    obtain ⟨p, hp, rfl⟩ := gives_iff.mp h
    exact .of_project (Command.project_proper hp)
  | exportArguments args s =>
    obtain ⟨plan, hplan, rfl⟩ := gives_iff.mp h
    exact Command.Export.plan_proper hplan
  | statusArguments args s =>
    obtain ⟨r, hr, rfl⟩ := gives_iff.mp h
    exact Command.Status.reference_proper hr

/-! ## What is stored -/

/-- The stored forms that hold names. -/
inductive StoredForm where
  | project
  | id
  | reference
  | description
  | handle
  | tableReference
  | table

/-- The names in a stored form. -/
def StoredForm.read? : StoredForm → Json → Option Names
  | .project, j => (ProjectId.ofJson? j).map fun p => { projects := [p] }
  | .id, j => (JobId.ofJson? j).map fun id => { ids := [id] }
  | .reference, j => (JobReference.ofJson? j).map JobReference.names
  | .description, j => (JobDescription.ofJson? j).map JobDescription.names
  | .handle, j => (JobHandle.ofJson? j).map fun h => h.reference.names
  | .tableReference, j => (TableReference.ofJson? j).map fun t => { tables := [t] }
  | .table, j => (Table.ofJson? j).map fun t => { tables := [t.reference] }

/-- Those of three names that a form has a place for. -/
def StoredForm.holding (p : ProjectId) (id : JobId) (t : TableReference) : StoredForm → Names
  | .project => { projects := [p] }
  | .id => { ids := [id] }
  | .reference | .handle => { projects := [p], ids := [id] }
  | .description => { projects := [p], ids := [id], tables := [t] }
  | .tableReference | .table => { tables := [t] }

theorem StoredForm.read_any (form : StoredForm) (p : ProjectId) (id : JobId)
    (t : TableReference) : ∃ j, form.read? j = some (form.holding p id t) := by
  cases form with
  | project => exact ⟨.text p.text, rfl⟩
  | id => exact ⟨.text id.text, rfl⟩
  | reference => exact ⟨JobReference.toJson ⟨p, id, none⟩, rfl⟩
  | description => exact ⟨JobDescription.toJson ⟨⟨p, id, none⟩, .extract ⟨t, [], .csv⟩⟩, rfl⟩
  | handle => exact ⟨JobHandle.toJson ⟨⟨p, id, none⟩, .pending, none, [], none⟩, rfl⟩
  | tableReference => exact ⟨t.toJson, rfl⟩
  | table => exact ⟨Table.toJson ⟨t, none, none⟩, rfl⟩

/-! ## All ways together -/

/-- Names say something, unless they were read from a stored form. Whatever is given, issued or
answered is checked, and what says something is not refused; but every stored form can hold any
names at all, and they are read as they are. -/
theorem names_are_proper_unless_stored (source : NameSource) (form : StoredForm)
    (project : ProjectId) (id : JobId) (table : TableReference) :
    (∀ names, source.gives = some names → names.Proper) ∧
    (ProjectId.ofText project.text = .ok project ↔ project.Proper) ∧
    (JobId.ofText id.text = .ok id ↔ id.Proper) ∧
    (TableReference.ofParts table.project table.dataset table.table = .ok table ↔ table.Proper) ∧
    (∃ j, form.read? j = some (form.holding project id table)) := by
  refine ⟨fun _ h => NameSource.proper_of_gives h, ?_, ?_, ?_, form.read_any project id table⟩
  · rw [ProjectId.ofText_eq_ok_iff, eq_self, true_and]
  · rw [JobId.ofText_eq_ok_iff, eq_self, true_and]
  · rw [TableReference.ofParts_eq_ok_iff, eq_self, true_and]
    exact ⟨fun ⟨hp, hd, ht⟩ => ⟨hp, hd, ht⟩, fun h => ⟨h.project, h.dataset, h.table⟩⟩

/-- The reference to a job without a name, of a project without one, can be read. -/
theorem empty_names_are_read :
    ((Json.ofText? "\x7b\"project_id\": \"\", \"job_id\": \"\"\x7d").bind JobReference.ofJson?) =
        some ⟨⟨""⟩, ⟨""⟩, none⟩ ∧
      ¬ (JobReference.names ⟨⟨""⟩, ⟨""⟩, none⟩).Proper := by
  refine ⟨by decide +kernel, fun h => ?_⟩
  exact h.ids _ (List.mem_singleton.mpr rfl) rfl

end WarehouseJobs
