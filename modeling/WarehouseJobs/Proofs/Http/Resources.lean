-- What the resource in a reply reports: a job that is done, with an error result or without, or a
-- job other than the one asked for. The first is what the handle of the reply says as well, and
-- with the second a reply gives no handle of the job, and is not worth another try.
import WarehouseJobs.Proofs.Http.Verdicts

namespace WarehouseJobs

/-! ## Handles of resources -/

/-- The state of a job that is done. -/
def JobState.ofEnd (failed : Bool) : JobState := if failed then .failed else .done

theorem JobState.isTerminal_iff {state : JobState} :
    state.isTerminal = true ↔ ∃ failed, state = .ofEnd failed := by
  cases state <;> decide

namespace Wire

variable {resource : Job} {name : JobName} {reference : JobReference} {status : UInt16}
  {state : JobState} {failed : Bool}

theorem JobName.reference_names (h : name.reference = .ok reference) :
    reference.project.text = name.project ∧ reference.id.text = name.id := by
  unfold JobName.reference ProjectId.ofText JobId.ofText at h
  split at h
  · cases h
  · rename_i hproject
    split at hproject
    · cases hproject
    · cases hproject
      split at h
      · cases h
      · rename_i hid
        split at hid
        · cases hid
        · cases hid
          cases h
          exact ⟨rfl, rfl⟩

/-- The handle of a resource has the name and the state that the resource reports. -/
theorem Job.handle_iff : (∃ handle, resource.handle status = .ok handle ∧
      handle.reference = reference ∧ handle.state = state) ↔
    ∃ name, resource.name = some name ∧ name.reference = .ok reference ∧
      (resource.status.getD {}).jobState? = some state := by
  unfold Job.handle
  cases hname : resource.name with
  | none => simp
  | some name =>
    cases hreference : name.reference with
    | error fault => simp [hreference]
    | ok named =>
      cases hstate : (resource.status.getD {}).jobState? with
      | none => simp [hreference, hstate]
      | some found => simp [hreference, hstate]

theorem JobStatus.jobState?_ofEnd_iff {status? : Option JobStatus} :
    (status?.getD {}).jobState? = some (.ofEnd failed) ↔
      ∃ status, status? = some status ∧ status.state = some "DONE" ∧
        status.errorResult.isSome = failed := by
  cases status? with
  | none => cases failed <;> simp [jobState?, JobState.ofEnd]
  | some status =>
    simp only [Option.getD_some, Option.some.injEq, exists_eq_left']
    unfold jobState?
    cases hresult : status.errorResult.isSome <;> cases failed <;> split <;>
      simp_all [JobState.ofEnd]

end Wire

namespace Client

/-! ## Resources of replies -/

/-- The job resource in a reply, if the reply is a success and can be read. -/
def resource? : Reply → Option Wire.Job
  | .error _ => none
  | .ok answer =>
    if isSuccess answer.status then
      answer.text?.bind fun text => (Json.ofText? text).bind Wire.Job.ofJson?
    else none

variable {reply : Reply} {resource : Wire.Job} {job : JobReference} {handle : JobHandle}
  {failed : Bool}

theorem resource?_eq_some_iff {answer : HttpAnswer} : resource? (.ok answer) = some resource ↔
    isSuccess answer.status = true ∧ ∃ text, answer.text? = some text ∧
      (Json.ofText? text).bind Wire.Job.ofJson? = some resource := by
  simp only [resource?, Option.ite_none_right_eq_some, Option.bind_eq_some_iff]

theorem shown_of_resource (h : resource? reply = some resource) : ∃ answer, reply = .ok answer ∧
    isSuccess answer.status = true ∧ shown reply = resource.handle answer.status := by
  cases reply with
  | error fault => cases h
  | ok answer =>
    obtain ⟨hsuccess, text, htext, hread⟩ := resource?_eq_some_iff.mp h
    refine ⟨answer, rfl, hsuccess, ?_⟩
    simp only [shown, reading, meaning, hsuccess, if_true, htext, hread]

theorem resource_of_shown (h : shown reply = .ok handle) : ∃ answer resource, reply = .ok answer ∧
    resource? reply = some resource ∧ resource.handle answer.status = .ok handle := by
  cases reply with
  | error fault => cases h
  | ok answer =>
    simp only [shown, reading, meaning] at h
    split at h
    · rename_i hsuccess
      split at h
      · cases h
      · rename_i text htext
        split at h
        · rename_i resource hread
          exact ⟨answer, resource, rfl, resource?_eq_some_iff.mpr ⟨hsuccess, text, htext, hread⟩, h⟩
        · cases h
    · cases h

/-! ## What they report -/

/-- The reply reports a job of the identity of `job` to be done, and whether it has an error
result. -/
inductive ReportsEnd (job : JobReference) (failed : Bool) : Reply → Prop
  | done {reply : Reply} {resource : Wire.Job} {name : Wire.JobName} {reference : JobReference}
      {status : Wire.JobStatus} : resource? reply = some resource → resource.name = some name →
      name.reference = .ok reference → job.sameJob reference = true →
      resource.status = some status → status.state = some "DONE" →
      status.errorResult.isSome = failed → ReportsEnd job failed reply

/-- The reply reports a job of another project or id. -/
inductive ReportsOther (job : JobReference) : Reply → Prop
  | named {reply : Reply} {resource : Wire.Job} {name : Wire.JobName} :
      resource? reply = some resource → resource.name = some name →
      ¬ (name.project = job.project.text ∧ name.id = job.id.text) → ReportsOther job reply

theorem reportsEnd_iff : ReportsEnd job failed reply ↔ ∃ handle, shown reply = .ok handle ∧
    job.sameJob handle.reference = true ∧ handle.state = .ofEnd failed := by
  constructor
  · rintro ⟨hresource, hname, hreference, hsame, hstatus, hdone, hfailed⟩
    obtain ⟨answer, -, -, hshown⟩ := shown_of_resource hresource
    obtain ⟨handle, hhandle, rfl, hstate⟩ := Wire.Job.handle_iff.mpr
      ⟨_, hname, hreference, Wire.JobStatus.jobState?_ofEnd_iff.mpr ⟨_, hstatus, hdone, hfailed⟩⟩
    exact ⟨handle, hshown.trans hhandle, hsame, hstate⟩
  · rintro ⟨handle, hshown, hsame, hstate⟩
    obtain ⟨answer, resource, -, hresource, hhandle⟩ := resource_of_shown hshown
    obtain ⟨name, hname, hreference, hjobState⟩ := Wire.Job.handle_iff.mp ⟨_, hhandle, rfl, hstate⟩
    obtain ⟨status, hstatus, hdone, hfailed⟩ := Wire.JobStatus.jobState?_ofEnd_iff.mp hjobState
    exact .done hresource hname hreference hsame hstatus hdone hfailed

theorem shows_iff : Shows job reply ↔
    ∃ handle, shown reply = .ok handle ∧ job.sameJob handle.reference = true := by
  refine ⟨Shows.reads_handle, ?_⟩
  rintro ⟨handle, hshown, hsame⟩
  obtain ⟨answer, resource, rfl, hresource, hhandle⟩ := resource_of_shown hshown
  obtain ⟨hsuccess, text, htext, hread⟩ := resource?_eq_some_iff.mp hresource
  obtain ⟨json, hjson, hread⟩ := Option.bind_eq_some_iff.mp hread
  exact .inBody hsuccess htext hjson hread hhandle hsame

/-- A reply that reports another job has the handle of that job, or none and a fault that counts
as fatal. -/
theorem ReportsOther.reads (h : ReportsOther job reply) :
    (∃ handle, shown reply = .ok handle ∧ job.sameJob handle.reference = false) ∨
      ∃ cause, shown reply = .error cause ∧ cause.classify = .fatal := by
  obtain ⟨hresource, hname, hother⟩ := h
  rename_i resource name
  obtain ⟨answer, -, hsuccess, hshown⟩ := shown_of_resource hresource
  rw [hshown]
  unfold Wire.Job.handle
  simp only [hname]
  cases hreference : name.reference with
  | error fault => exact .inr ⟨_, rfl, RemoteFault.classify_invalidResponse hsuccess _⟩
  | ok reference =>
    simp only
    cases hstate : (resource.status.getD {}).jobState? with
    | none => exact .inr ⟨_, rfl, RemoteFault.classify_invalidResponse hsuccess _⟩
    | some state =>
      refine .inl ⟨_, rfl, eq_false_of_ne_true fun hsame => hother ?_⟩
      obtain ⟨hproject, hid⟩ := Wire.JobName.reference_names hreference
      obtain ⟨hsameProject, hsameId⟩ := names_of_same hsame
      exact ⟨hproject ▸ congrArg ProjectId.text hsameProject, hid ▸ congrArg JobId.text hsameId⟩

end Client
end WarehouseJobs
