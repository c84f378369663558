-- Where requests go. The names of projects, jobs and tables stand in the path of an address as
-- they are; names that stand for themselves there are told apart, others may share a place.
import WarehouseJobs.Http.Client
import WarehouseJobs.Proofs.Url.Segments

namespace WarehouseJobs.Client

open Url (IsSegment slashed encode keptInPath encodeForm)

variable {c : Client} {project project' : ProjectId} {id id' : JobId} {location : Option String}
  {table : TableReference} {method : HttpMethod} {url : String} {field : Option (String × String)}
  {body : Option Json} {r : HttpRequest}

/-! ## The text of a place -/

theorem jobUrl_eq : c.jobUrl project id = String.ofList (c.base.toList ++
    slashed ["projects".toList, project.text.toList, "jobs".toList, id.text.toList]) := by
  rw [← String.toList_inj, String.toList_ofList]
  simp [jobUrl, jobsUrl, slashed]

theorem tableUrl_eq : c.tableUrl table = String.ofList (c.base.toList ++
    slashed ["projects".toList, table.project.toList, "datasets".toList, table.dataset.toList,
      "tables".toList, table.table.toList]) := by
  rw [← String.toList_inj, String.toList_ofList]
  simp [tableUrl, slashed]

/-! ## Built requests -/

theorem place_ok {a : Address} (h : place url = .ok a) :
    Address.ofText url = .ok a ∧ (a.scheme = "http" ∨ a.scheme = "https") := by
  unfold place at h
  split at h
  · cases h
  rename_i address haddress
  split at h
  · rename_i hweb
    cases h
    refine ⟨haddress, ?_⟩
    simpa using (Bool.and_eq_true_iff.mp hweb).1
  · cases h

/-- An address with a field in its query, if one is given. -/
def fielded (a : Address) : Option (String × String) → Address
  | some (name, value) => a.withField name value
  | none => a

theorem address_of_request (h : c.request method url field body = .ok r) :
    ∃ a, place url = .ok a ∧ r.address = fielded a field := by
  unfold request at h
  split at h
  · cases h
  · cases h
  · rename_i a _ ha _
    cases h
    refine ⟨a, ha, ?_⟩
    cases field <;> rfl

def locationField (location : Option String) : Option (String × String) :=
  location.map fun l => ("location", l)

/-- The query of a request with or without a location. -/
def locationQuery (location : Option String) : Option (List Char) :=
  location.map fun l => encodeForm "location".toList ++ '=' :: encodeForm l.toList

theorem locationQuery_injective {location location' : Option String}
    (h : locationQuery location = locationQuery location') : location = location' := by
  cases location with
  | none =>
    cases location' with
    | none => rfl
    | some l' => cases h
  | some l =>
    cases location' with
    | none => cases h
    | some l' =>
      have hfield := List.append_cancel_left (Option.some.inj h)
      rw [String.toList_inj.mp (Url.encodeForm_injective (List.cons.inj hfield).2)]

theorem fielded_location {a : Address} (hquery : a.query = none) (location : Option String) :
    fielded a (locationField location) = { a with query := locationQuery location } := by
  obtain ⟨scheme, host, port, path, query⟩ := a
  cases hquery
  cases location <;> rfl

/-! ## Places told apart -/

/-- A request whose place is spelled with segments: they can be told from its path. -/
theorem path_of_request (hbase : ∀ ch ∈ c.base.toList, Url.endsPath ch = false) :
    ∃ start, ∀ (segments : List (List Char)) (location : Option String) (r : HttpRequest),
      (∀ s ∈ segments, IsSegment s) → segments ≠ [] →
        c.request method
          (String.ofList (c.base.toList ++ slashed ("projects".toList :: segments)))
          (locationField location) body = .ok r →
            r.address.path = start ++ slashed (segments.map (encode keptInPath)) ∧
              r.address.query = locationQuery location := by
  have hprojects : IsSegment "projects".toList := by decide
  obtain ⟨start, hstart⟩ := Url.path_of_slashed hbase hprojects (by decide)
  refine ⟨start, fun segments location r h hne hrequest => ?_⟩
  obtain ⟨a, hplace, haddress⟩ := address_of_request hrequest
  obtain ⟨htext, hweb⟩ := place_ok hplace
  obtain ⟨hpath, hquery⟩ := hstart segments a h hne htext hweb
  rw [haddress, fielded_location hquery]
  exact ⟨hpath, rfl⟩

/-- The request for a job. -/
def jobRequest (c : Client) (project : ProjectId) (id : JobId) (location : Option String) :
    Except ConnectionFault HttpRequest :=
  c.request .get (c.jobUrl project id) (locationField location) none

/-- The request for a table. -/
def tableRequest (c : Client) (table : TableReference) : Except ConnectionFault HttpRequest :=
  c.request .get (c.tableUrl table) none none

/-- A job whose project and id stand for themselves in a path. -/
structure PlainJob (project : ProjectId) (id : JobId) : Prop where
  project : IsSegment project.text.toList
  id : IsSegment id.text.toList

/-- A table whose three names stand for themselves in a path. -/
structure PlainTable (table : TableReference) : Prop where
  project : IsSegment table.project.toList
  dataset : IsSegment table.dataset.toList
  table : IsSegment table.table.toList

theorem PlainJob.segments (h : PlainJob project id) :
    ∀ s ∈ [project.text.toList, "jobs".toList, id.text.toList], IsSegment s :=
  List.forall_mem_cons.mpr ⟨h.project, List.forall_mem_cons.mpr ⟨by decide,
    List.forall_mem_singleton.mpr h.id⟩⟩

theorem PlainTable.segments (h : PlainTable table) :
    ∀ s ∈ [table.project.toList, "datasets".toList, table.dataset.toList, "tables".toList,
      table.table.toList], IsSegment s :=
  List.forall_mem_cons.mpr ⟨h.project, List.forall_mem_cons.mpr ⟨by decide,
    List.forall_mem_cons.mpr ⟨h.dataset, List.forall_mem_cons.mpr ⟨by decide,
      List.forall_mem_singleton.mpr h.table⟩⟩⟩⟩

theorem jobRequest_injective (hbase : ∀ ch ∈ c.base.toList, Url.endsPath ch = false)
    {location location' : Option String} {r r' : HttpRequest} (h : PlainJob project id)
    (h' : PlainJob project' id') (hr : c.jobRequest project id location = .ok r)
    (hr' : c.jobRequest project' id' location' = .ok r') (hsame : r.address = r'.address) :
    project = project' ∧ id = id' ∧ location = location' := by
  obtain ⟨start, hstart⟩ := path_of_request hbase
  unfold jobRequest at hr hr'
  rw [jobUrl_eq] at hr hr'
  obtain ⟨hpath, hquery⟩ := hstart _ location r h.segments (by simp) hr
  obtain ⟨hpath', hquery'⟩ := hstart _ location' r' h'.segments (by simp) hr'
  rw [hsame, hpath'] at hpath
  rw [hsame, hquery'] at hquery
  have hnames := Url.encoded_injective h'.segments h.segments (List.append_cancel_left hpath)
  simp only [List.cons.injEq, and_true, true_and, String.toList_inj] at hnames
  obtain ⟨hproject, hid⟩ := hnames
  refine ⟨?_, ?_, (locationQuery_injective hquery).symm⟩
  · exact congrArg ProjectId.mk hproject.symm
  · exact congrArg JobId.mk hid.symm

theorem tableRequest_injective (hbase : ∀ ch ∈ c.base.toList, Url.endsPath ch = false)
    {table' : TableReference} {r r' : HttpRequest} (h : PlainTable table) (h' : PlainTable table')
    (hr : c.tableRequest table = .ok r) (hr' : c.tableRequest table' = .ok r')
    (hsame : r.address = r'.address) : table = table' := by
  obtain ⟨start, hstart⟩ := path_of_request hbase
  unfold tableRequest at hr hr'
  rw [tableUrl_eq] at hr hr'
  obtain ⟨hpath, -⟩ := hstart _ none r h.segments (by simp) hr
  obtain ⟨hpath', -⟩ := hstart _ none r' h'.segments (by simp) hr'
  rw [hsame, hpath'] at hpath
  have hnames := Url.encoded_injective h'.segments h.segments (List.append_cancel_left hpath)
  simp only [List.cons.injEq, and_true, true_and, String.toList_inj] at hnames
  obtain ⟨hproject, hdataset, htable⟩ := hnames
  obtain ⟨project, dataset, name⟩ := table
  obtain ⟨project', dataset', name'⟩ := table'
  cases hproject
  cases hdataset
  cases htable
  rfl

/-! ## Places shared -/

/-- Where a name has a slash, it cannot be told where the next name begins. -/
theorem jobUrl_shift (c : Client) (project job id : String) :
    c.jobUrl ⟨project⟩ ⟨job ++ "/jobs/" ++ id⟩ = c.jobUrl ⟨project ++ "/jobs/" ++ job⟩ ⟨id⟩ := by
  rw [← String.toList_inj]
  simp [jobUrl, jobsUrl]

theorem tableUrl_shift (c : Client) (project part dataset table : String) :
    c.tableUrl ⟨project, part ++ "/datasets/" ++ dataset, table⟩ =
      c.tableUrl ⟨project ++ "/datasets/" ++ part, dataset, table⟩ := by
  rw [← String.toList_inj]
  simp [tableUrl]

/-- Requests for two jobs, or for two tables, go to two places if all their names stand for
themselves in a path: a request tells the project, the id and the location of its job, and the
three names of its table. Names with slashes are not told apart: a part of the id may as well
be a part of the project. -/
theorem requests_tell_plain_names (c : Client)
    (hbase : ∀ ch ∈ c.base.toList, Url.endsPath ch = false) :
    (∀ project id location project' id' location' r r', PlainJob project id →
      PlainJob project' id' → c.jobRequest project id location = .ok r →
        c.jobRequest project' id' location' = .ok r' → r.address = r'.address →
          project = project' ∧ id = id' ∧ location = location') ∧
    (∀ table table' r r', PlainTable table → PlainTable table' → c.tableRequest table = .ok r →
      c.tableRequest table' = .ok r' → r.address = r'.address → table = table') ∧
    (∀ project job id, c.jobUrl ⟨project⟩ ⟨job ++ "/jobs/" ++ id⟩ =
      c.jobUrl ⟨project ++ "/jobs/" ++ job⟩ ⟨id⟩) ∧
    (∀ project part dataset table, c.tableUrl ⟨project, part ++ "/datasets/" ++ dataset, table⟩ =
      c.tableUrl ⟨project ++ "/datasets/" ++ part, dataset, table⟩) :=
  ⟨fun _ _ _ _ _ _ _ _ h h' hr hr' hsame => jobRequest_injective hbase h h' hr hr' hsame,
    fun _ _ _ _ h h' hr hr' hsame => tableRequest_injective hbase h h' hr hr' hsame,
    c.jobUrl_shift, c.tableUrl_shift⟩

theorem exists_of_isOk {ε α : Type} {result : Except ε α} (h : result.isOk = true) :
    ∃ a, result = .ok a := by
  cases result with
  | ok a => exact ⟨a, rfl⟩
  | error fault => cases h

/-- A service at a short address. -/
def exampleClient : Client := .ofSettings { baseUrl := "http://w/v2/" }

/-- The job `nightly` is looked up in one place with a location, and in another one without. -/
theorem location_tells_places_apart :
    (∀ ch ∈ exampleClient.base.toList, Url.endsPath ch = false) ∧
    ∃ r r', exampleClient.jobRequest ⟨"demo"⟩ ⟨"nightly"⟩ none = .ok r ∧
      exampleClient.jobRequest ⟨"demo"⟩ ⟨"nightly"⟩ (some "EU") = .ok r' ∧
        r.address ≠ r'.address := by
  have hplainBase : exampleClient.base.toList.all (fun ch => !Url.endsPath ch) = true := by
    decide +kernel
  have hbase : ∀ ch ∈ exampleClient.base.toList, Url.endsPath ch = false := fun ch hch => by
    simpa using List.all_eq_true.mp hplainBase ch hch
  have hplain : PlainJob ⟨"demo"⟩ ⟨"nightly"⟩ := ⟨by decide, by decide⟩
  obtain ⟨r, hr⟩ : ∃ r, exampleClient.jobRequest ⟨"demo"⟩ ⟨"nightly"⟩ none = .ok r :=
    exists_of_isOk (by decide +kernel)
  obtain ⟨r', hr'⟩ : ∃ r', exampleClient.jobRequest ⟨"demo"⟩ ⟨"nightly"⟩ (some "EU") = .ok r' :=
    exists_of_isOk (by decide +kernel)
  refine ⟨hbase, r, r', hr, hr', fun hsame => ?_⟩
  obtain ⟨-, -, hlocation⟩ := (requests_tell_plain_names exampleClient hbase).1 _ _ _ _ _ _ _ _
    hplain hplain hr hr' hsame
  cases hlocation

/-- A job of one project is looked up where a job of another one is, and a job without a location
where another one is with it. -/
theorem two_jobs_share_a_place :
    (exampleClient.jobRequest ⟨"a"⟩ ⟨"b/jobs/c"⟩ none).toOption.map (·.address.target) =
      some "/v2/projects/a/jobs/b/jobs/c" ∧
    (exampleClient.jobRequest ⟨"a/jobs/b"⟩ ⟨"c"⟩ none).toOption.map (·.address.target) =
      some "/v2/projects/a/jobs/b/jobs/c" ∧
    (exampleClient.jobRequest ⟨"a"⟩ ⟨"b?location=EU"⟩ none).toOption.map (·.address.target) =
      some "/v2/projects/a/jobs/b?location=EU" ∧
    (exampleClient.jobRequest ⟨"a"⟩ ⟨"b"⟩ (some "EU")).toOption.map (·.address.target) =
      some "/v2/projects/a/jobs/b?location=EU" := by
  decide +kernel

end WarehouseJobs.Client
