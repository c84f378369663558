-- What becomes of the successes of the service. Either the record of a job is clear, and the handle
-- made of it says what the record says; or there is a fault that counts as fatal, so that nobody asks
-- again. And so an export reports a failed job in the words of the service.
import WarehouseJobs.Proofs.Http.Exports
import WarehouseJobs.Proofs.Http.Resources
import WarehouseJobs.Proofs.Names

namespace WarehouseJobs

/-! ## Clear records -/

namespace Wire

variable {resource : Job} {name : JobName} {reference : JobReference} {handle : JobHandle}
  {status : UInt16} {fault : RemoteFault}

/-- What a record says about the state of its job. Without a status it says nothing. -/
def Job.said (resource : Job) : JobStatus := resource.status.getD {}

/-- The job is named, with a project and an id that say something, and its state is known. -/
structure Job.Clear (resource : Job) : Prop where
  named : ∃ name, resource.name = some name ∧ ProjectId.Proper ⟨name.project⟩ ∧
    JobId.Proper ⟨name.id⟩
  known : resource.said.state = some "PENDING" ∨ resource.said.state = some "RUNNING" ∨
    resource.said.state = some "DONE"

/-- The handle says what the record says. -/
structure Job.Agrees (resource : Job) (handle : JobHandle) : Prop where
  reference : ∃ name, resource.name = some name ∧
    handle.reference = ⟨⟨name.project⟩, ⟨name.id⟩, name.location⟩
  project : handle.reference.project.Proper
  id : handle.reference.id.Proper
  failed_iff : handle.state = .failed ↔
    resource.said.state = some "DONE" ∧ resource.said.errorResult.isSome = true
  done_iff : handle.state = .done ↔
    resource.said.state = some "DONE" ∧ resource.said.errorResult.isSome = false
  failed : handle.state = .failed → handle.errorResult.isSome = true
  done : handle.state = .done → handle.errorResult = none
  errorResult : handle.errorResult = resource.said.errorResult.map ErrorNote.detail
  /-- As many errors, in the same order. -/
  errors : handle.errors = resource.said.errors.map ErrorNote.detail
  statistics : handle.statistics = resource.times.map JobTimes.statistics

/-- The record says that its job failed, and why. -/
structure Job.Failed (resource : Job) (note : ErrorNote) : Prop where
  clear : resource.Clear
  done : resource.said.state = some "DONE"
  noted : resource.said.errorResult = some note

theorem JobName.reference_eq_ok_iff : name.reference = .ok reference ↔
    reference = ⟨⟨name.project⟩, ⟨name.id⟩, name.location⟩ ∧
      ProjectId.Proper ⟨name.project⟩ ∧ JobId.Proper ⟨name.id⟩ := by
  constructor
  · intro h
    unfold JobName.reference at h
    split at h
    · cases h
    · rename_i project hproject
      split at h
      · cases h
      · rename_i id hid
        cases h
        obtain ⟨rfl, hproject⟩ := ProjectId.ofText_eq_ok_iff.mp hproject
        obtain ⟨rfl, hid⟩ := JobId.ofText_eq_ok_iff.mp hid
        exact ⟨rfl, hproject, hid⟩
  · rintro ⟨rfl, hproject, hid⟩
    unfold JobName.reference
    rw [ProjectId.ofText_eq_ok_iff.mpr ⟨rfl, hproject⟩, JobId.ofText_eq_ok_iff.mpr ⟨rfl, hid⟩]

theorem JobStatus.jobState?_isSome_iff {said : JobStatus} : said.jobState?.isSome = true ↔
    said.state = some "PENDING" ∨ said.state = some "RUNNING" ∨ said.state = some "DONE" := by
  unfold JobStatus.jobState?
  split <;> simp_all

/-- The end that a record tells of. -/
theorem JobStatus.jobState?_eq_ofEnd_iff {said : JobStatus} {failed : Bool} :
    said.jobState? = some (.ofEnd failed) ↔
      said.state = some "DONE" ∧ said.errorResult.isSome = failed := by
  have hsome : (Option.getD (some said) {}).jobState? = some (.ofEnd failed) ↔ _ :=
    jobState?_ofEnd_iff
  simpa using hsome

/-- How a handle is made of a record. -/
theorem Job.handle_eq_ok_iff : resource.handle status = .ok handle ↔
    ∃ name reference state, resource.name = some name ∧ name.reference = .ok reference ∧
      resource.said.jobState? = some state ∧
      handle =
        { reference, state
          errorResult := resource.said.errorResult.map ErrorNote.detail
          errors := resource.said.errors.map ErrorNote.detail
          statistics := resource.times.map JobTimes.statistics } := by
  unfold Job.handle
  cases hname : resource.name with
  | none => simp
  | some name =>
    cases hreference : name.reference with
    | error fault => simp [hreference]
    | ok reference =>
      simp only [Job.said]
      cases hstate : (resource.status.getD {}).jobState? with
      | none => simp [hreference]
      | some state => simp [hreference, eq_comm]

/-- A record gives a handle exactly if it is clear. -/
theorem Job.handle_isOk_iff : (∃ handle, resource.handle status = .ok handle) ↔ resource.Clear := by
  constructor
  · rintro ⟨handle, h⟩
    obtain ⟨name, reference, state, hname, hreference, hstate, -⟩ := Job.handle_eq_ok_iff.mp h
    refine ⟨⟨name, hname, (JobName.reference_eq_ok_iff.mp hreference).2⟩, ?_⟩
    exact JobStatus.jobState?_isSome_iff.mp (by rw [hstate]; rfl)
  · rintro ⟨⟨name, hname, hproper⟩, hknown⟩
    obtain ⟨state, hstate⟩ :=
      Option.isSome_iff_exists.mp (JobStatus.jobState?_isSome_iff.mpr hknown)
    exact ⟨_, Job.handle_eq_ok_iff.mpr ⟨name, _, state, hname,
      JobName.reference_eq_ok_iff.mpr ⟨rfl, hproper⟩, hstate, rfl⟩⟩

theorem Job.agrees_of_handle (h : resource.handle status = .ok handle) :
    resource.Agrees handle := by
  obtain ⟨name, reference, state, hname, hreference, hstate, rfl⟩ := Job.handle_eq_ok_iff.mp h
  obtain ⟨rfl, hproject, hid⟩ := JobName.reference_eq_ok_iff.mp hreference
  have hends : ∀ failed, state = .ofEnd failed ↔
      resource.said.state = some "DONE" ∧ resource.said.errorResult.isSome = failed := by
    intro failed
    rw [← JobStatus.jobState?_eq_ofEnd_iff, hstate, Option.some_inj]
  have hfailed := hends true
  have hdone := hends false
  constructor
  case reference => exact ⟨name, hname, rfl⟩
  case project => exact hproject
  case id => exact hid
  case failed_iff => exact hfailed
  case done_iff => exact hdone
  case failed =>
    intro hstate
    rw [Option.isSome_map]
    exact (hfailed.mp hstate).2
  case done =>
    intro hstate
    rw [Option.map_eq_none_iff, ← Option.not_isSome_iff_eq_none, Bool.not_eq_true]
    exact (hdone.mp hstate).2
  case errorResult => rfl
  case errors => rfl
  case statistics => rfl

/-- Errors along the way do not make a failed job: its error result does. -/
example :
    let resource : Job :=
      { name := some ⟨"demo", "nightly", none⟩
        extract := none
        status := some { state := some "DONE", errors := [⟨some "backendError", none, none⟩] }
        times := none }
    (resource.handle 200).map JobHandle.state = .ok .done := by decide +kernel

theorem Job.fatal_of_handle (hsuccess : Client.isSuccess status = true)
    (h : resource.handle status = .error fault) : fault.classify = .fatal := by
  unfold Job.handle at h
  split at h
  · cases h
    exact RemoteFault.classify_invalidResponse hsuccess _
  · split at h
    · cases h
      exact RemoteFault.classify_invalidResponse hsuccess _
    · simp only at h
      split at h
      · cases h
        exact RemoteFault.classify_invalidResponse hsuccess _
      · cases h

end Wire

/-! ## Successes that say nothing -/

namespace Client

open Program

variable {α β : Type} {read : Json → Option α} {value : α → UInt16 → Except RemoteFault β}
  {c : Client} {answer : HttpAnswer} {x : HttpRequest × Reply}
  {xs : List (HttpRequest × Reply)} {ts : List (Turn HttpSignature)}
  {project : ProjectId} {job : JobReference} {wait : Bool} {fault : RemoteFault}
  {said : List (Except RemoteFault JobHandle)} {last : Except RemoteFault JobHandle}
  {handle : JobHandle} {note : Wire.ErrorNote}

/-- A success that arrived as a whole is a job, or a fault that counts as fatal. -/
theorem fatal_of_success {text : String} (hsuccess : isSuccess answer.status = true)
    (htext : answer.text? = some text) (h : shown (.ok answer) = .error fault) :
    fault.classify = .fatal := by
  simp only [shown, reading, meaning, hsuccess, if_true, htext] at h
  split at h
  · exact Wire.Job.fatal_of_handle hsuccess h
  · cases h
    exact RemoteFault.classify_invalidResponse hsuccess _

/-- The answer is a fault that counts as fatal. -/
def FailsFatally (answer : Except RemoteFault β) : Prop :=
  ∃ fault, answer = .error fault ∧ fault.classify = .fatal

theorem not_failsFatally_ok (b : β) : ¬ FailsFatally (.ok b : Except RemoteFault β) := nofun

theorem FailsFatally.not_busy {answer : Except RemoteFault β} (h : FailsFatally answer) :
    ¬ Busy answer := by
  obtain ⟨fault, rfl, hfatal⟩ := h
  rw [busy_error_iff, hfatal]
  decide

theorem FailsFatally.not_taken {answer : Except RemoteFault JobHandle} (h : FailsFatally answer) :
    ¬ Taken answer := by
  obtain ⟨fault, rfl, hfatal⟩ := h
  rintro ⟨_, ⟨⟩, htaken⟩
  rw [hfatal] at htaken
  cases htaken

theorem FailsFatally.not_passes {look : Waiting.Look} (h : FailsFatally look)
    (reference : JobReference) :
    ¬ Waiting.Passes reference look := by
  rintro (hunfinished | hbusy)
  · obtain ⟨fault, rfl, -⟩ := h
    cases hunfinished
  · exact h.not_busy hbusy

/-! ## Nothing is sent behind them -/

theorem Tried.ends_at_settled {request : HttpRequest} {judged : Reply → Except RemoteFault β}
    {left : Nat} {result : Except RemoteFault β} (h : Tried request judged left xs result)
    (hx : x ∈ xs) (hsettled : ¬ Busy (judged x.2)) :
    ∃ before, xs = before ++ [x] ∧ result = judged x.2 := by
  obtain ⟨lost, reply, rfl, rfl, hlost, -⟩ := h.split
  obtain ⟨said, hsaid, rfl⟩ := List.mem_map.mp hx
  rcases List.mem_append.mp hsaid with hsaid | hsaid
  · exact absurd (hlost said hsaid) hsettled
  · obtain rfl := List.mem_singleton.mp hsaid
    exact ⟨lost.map (request, ·), by simp, rfl⟩

/-- A client that gets a reply that is not busy asks no more, and the reply is the result. -/
theorem settled_is_last {event : LogEvent} {request : Except ConnectionFault HttpRequest}
    {result : Except RemoteFault β}
    (h : (Http.log event >>= fun _ => c.withRetries (exchange request read value)).Ends ts result)
    (hx : x ∈ exchanges ts) (hsettled : ¬ Busy (reading read value x.2)) :
    ∃ before, exchanges ts = before ++ [x] ∧ result = reading read value x.2 := by
  rcases tried_or_unsent h with ⟨sent, -, htried⟩ | ⟨_, -, hnone, -⟩
  · exact htried.ends_at_settled hx hsettled
  · rw [hnone] at hx
    cases hx

/-- A reply that is not busy, and not among the answers before the last one, is the last one. -/
theorem Carries.ends_at_settled (h : Carries xs (said ++ [last])) (hx : x ∈ xs)
    (hsettled : ¬ Busy (shown x.2)) (hsaid : shown x.2 ∉ said) :
    shown x.2 = last ∧ ∃ before, xs = before ++ [x] := by
  have hlast : shown x.2 = last := by
    rcases h.read x hx with hbusy | hmem
    · exact absurd hbusy hsettled
    · rcases List.mem_append.mp hmem with hmem | hmem
      · exact absurd hmem hsaid
      · exact List.mem_singleton.mp hmem
  refine ⟨hlast, ?_⟩
  rw [hlast] at hsettled
  obtain ⟨before, request, reply, rfl, -, hbefore⟩ := h.last hsettled
  rcases List.mem_append.mp hx with hx | hx
  · rcases hbefore x hx with hbusy | hmem
    · exact absurd (hlast ▸ hbusy) hsettled
    · exact absurd hmem hsaid
  · exact ⟨before, by rw [List.mem_singleton.mp hx]⟩

/-- A fatal reply to a submission is its last one. -/
theorem Carries.fatal_of_taken (h : Carries xs (said ++ [last])) (htaken : ∀ a ∈ said, Taken a)
    (hx : x ∈ xs) (hfatal : FailsFatally (shown x.2)) :
    shown x.2 = last ∧ ∃ before, xs = before ++ [x] := by
  apply h.ends_at_settled hx hfatal.not_busy
  intro hmem
  exact hfatal.not_taken (htaken _ hmem)

/-- A fatal reply to a wait is its last one, and the wait fails. -/
theorem Carries.fatal_of_watched {reference : JobReference} {looks : List Waiting.Look}
    {outcome : Except Fault WaitOutcome} (h : Carries xs looks)
    (hwatched : Waiting.Watched reference looks outcome) (hx : x ∈ xs)
    (hfatal : FailsFatally (shown x.2)) :
    (∃ before, xs = before ++ [x]) ∧ ∃ failure, outcome = .error failure := by
  cases hwatched with
  | @ended seen handle hseen _ _ =>
    have hlast := (h.ends_at_settled hx hfatal.not_busy
      fun hmem => hfatal.not_passes reference (hseen _ hmem)).1
    rw [hlast] at hfatal
    exact absurd hfatal (not_failsFatally_ok handle)
  | gaveUp hseen _ _ =>
    have hends := (h.ends_at_settled hx hfatal.not_busy
      fun hmem => hfatal.not_passes reference (hseen _ hmem)).2
    exact ⟨hends, _, rfl⟩
  | calledOff hseen =>
    rcases h.read x hx with hbusy | hmem
    · exact absurd hbusy hfatal.not_busy
    · exact absurd (hseen _ hmem) (hfatal.not_passes reference)

/-- An export that gets a fatal reply sends nothing more, and fails. -/
theorem Exported.fatal_is_last {result : Except Fault JobHandle}
    (h : Exported c project job wait ts result) (hx : x ∈ exchanges ts)
    (hfatal : FailsFatally (shown x.2)) :
    ∃ before failure, exchanges ts = before ++ [x] ∧ result = .error failure := by
  cases h with
  | refused hcarries htaken _ =>
    obtain ⟨-, before, hbefore⟩ := hcarries.fatal_of_taken htaken hx hfatal
    exact ⟨before, _, hbefore, rfl⟩
  | @atOnce _ _ handle hcarries htaken _ =>
    rw [(hcarries.fatal_of_taken htaken hx hfatal).1] at hfatal
    exact absurd hfatal (not_failsFatally_ok handle)
  | @watched ts ts' _ _ handle _ hcarries htaken _ _ hlooks _ hwatched =>
    rw [exchanges_append] at hx
    rcases List.mem_append.mp hx with hx | hx
    · -- The submission gave a job, so its last reply was no fault.
      rw [(hcarries.fatal_of_taken htaken hx hfatal).1] at hfatal
      exact absurd hfatal (not_failsFatally_ok handle)
    · obtain ⟨⟨before, hbefore⟩, failure, rfl⟩ := hlooks.fatal_of_watched hwatched hx hfatal
      refine ⟨exchanges ts ++ before, failure, ?_, rfl⟩
      rw [exchanges_append, hbefore, List.append_assoc]

/-! ## Failed jobs -/

/-- The fault that tells of a failed job in the words of the service. -/
def failureNoted (note : Wire.ErrorNote) : StagedFault :=
  ⟨.fatal, .execution, ⟨none, note.reason, note.message.getD ""⟩⟩

theorem executionFault_of_noted (h : handle.errorResult = some note.detail) :
    Exporter.executionFault handle = failureNoted note := by
  unfold Exporter.executionFault
  rw [h]
  rfl

theorem failed_of_shown {reply : Reply} (h : shown reply = .ok handle)
    (hfailed : handle.state = .failed) : ∃ resource note, resource? reply = some resource ∧
      resource.Failed note ∧ Exporter.executionFault handle = failureNoted note := by
  obtain ⟨answer, resource, -, hresource, hhandle⟩ := resource_of_shown h
  have hagrees := Wire.Job.agrees_of_handle hhandle
  obtain ⟨hdone, hsome⟩ := hagrees.failed_iff.mp hfailed
  obtain ⟨note, hnote⟩ := Option.isSome_iff_exists.mp hsome
  have hclear := Wire.Job.handle_isOk_iff.mp ⟨handle, hhandle⟩
  refine ⟨resource, note, hresource, ⟨hclear, hdone, hnote⟩, executionFault_of_noted ?_⟩
  rw [hagrees.errorResult, hnote]
  rfl

/-- An export fails because its job failed only if the last reply says so. -/
theorem Exported.noted {failure : StagedFault}
    (h : Exported c project job wait ts (.error (.remote failure)))
    (hstage : failure.stage = .execution) : ∃ before request reply resource note,
      exchanges ts = before ++ [(request, reply)] ∧ resource? reply = some resource ∧
        resource.Failed note ∧ failure = failureNoted note := by
  generalize hresult : (.error (.remote failure) : Except Fault JobHandle) = result at h
  cases h with
  | @refused _ _ _ last _ _ _ hlooked =>
    cases hresult
    -- A fault of the submission is of its stage.
    cases last with
    | error cause =>
      cases hlooked
      cases hstage
    | ok handle =>
      simp only [looked] at hlooked
      split at hlooked <;> cases hlooked
  | atOnce => cases hresult
  | @watched ts ts' _ _ _ _ _ _ _ _ hlooks _ hwatched =>
    cases hwatched with
    | @ended _ finished _ _ _ =>
      obtain ⟨before, request, reply, hlast, hshown, -⟩ := hlooks.last (not_busy_ok finished)
      simp only [Exporter.concluded, Exporter.ending] at hresult
      split at hresult
      · rename_i hfailed
        obtain ⟨resource, note, hresource, hnoted, hfault⟩ := failed_of_shown hshown hfailed
        cases hresult
        refine ⟨exchanges ts ++ before, request, reply, resource, note, ?_, hresource, hnoted,
          hfault⟩
        rw [exchanges_append, hlast, List.append_assoc]
      · cases hresult
    | gaveUp _ _ hunseen =>
      cases hresult
      rw [show failure.stage = .polling from hunseen] at hstage
      cases hstage
    | calledOff => cases hresult

/-! ## Both -/

/-- A fault that an answer shows, and that nobody asks again after: neither a client nor an export
sends anything more, a submission does not look for a job that is there already, and a wait does not
count it among the busy looks. -/
structure AskedNoMore (answer : HttpAnswer) (fault : RemoteFault) : Prop where
  fatal : fault.classify = .fatal
  ends_create : ∀ (c : Client) project job ts result request,
    (c.create project job).Ends ts result → (request, .ok answer) ∈ exchanges ts →
    ∃ before, exchanges ts = before ++ [(request, .ok answer)] ∧ result = .error fault
  ends_get : ∀ (c : Client) project id location ts result request,
    (c.get project id location).Ends ts result → (request, .ok answer) ∈ exchanges ts →
    ∃ before, exchanges ts = before ++ [(request, .ok answer)] ∧ result = .error fault
  ends_submission : ∀ project (job : JobDescription) ts result,
    job.reference.id.text.isEmpty = false →
    (Submission.submitClassified project job).Ends
      (Submission.createTurn project job (.error fault) :: ts) result →
    (∀ found, Submission.lookupTurn project job found ∉ ts) ∧
      result = .error (.remote ⟨.fatal, .submission, fault⟩)
  ends_wait : ∀ limit errors reference,
    Waiting.judge limit errors (looked .polling reference (.error fault)) =
      .decided (.error (.remote ⟨.fatal, .polling, fault⟩))
  ends_export : ∀ (c : Client) (e : Exporter) rounds project source destinations wait
    (watcher : Watcher) ts result request,
    (c.overHttp (e.run rounds project source destinations wait watcher.onTick)).Ends ts result →
    (request, .ok answer) ∈ exchanges ts →
    ∃ before failure, exchanges ts = before ++ [(request, .ok answer)] ∧ result = .error failure

theorem submission_of_fatal {project : ProjectId} {job : JobDescription}
    {ts : List (Turn WorkSignature)} {result : Except Fault SubmitOutcome}
    (hfatal : fault.classify = .fatal) (hid : job.reference.id.text.isEmpty = false)
    (h : (Submission.submitClassified project job).Ends
      (Submission.createTurn project job (.error fault) :: ts) result) :
    (∀ found, Submission.lookupTurn project job found ∉ ts) ∧
      result = .error (.remote ⟨.fatal, .submission, fault⟩) := by
  have huntaken : fault.classify ≠ .alreadyExists := by
    rw [hfatal]
    decide
  constructor
  · intro found hmem
    exact huntaken ((Submission.looked_up_iff hid h).mp ⟨found, hmem⟩)
  · rcases (Submission.course_of_ends hid h).asked with
      ⟨_, _, hts, -, rfl⟩ | ⟨_, _, _, hts, htaken, -⟩
    · cases (List.cons.inj hts).1
      simp only [looked, RemoteFault.during, hfatal]
      rfl
    · cases (List.cons.inj hts).1
      exact absurd htaken huntaken

theorem askedNoMore_of_success {text : String} (hsuccess : isSuccess answer.status = true)
    (htext : answer.text? = some text) (h : shown (.ok answer) = .error fault) :
    AskedNoMore answer fault := by
  have hclass := fatal_of_success hsuccess htext h
  have hfatal : FailsFatally (shown (.ok answer)) := ⟨fault, h, hclass⟩
  constructor
  case fatal => exact hclass
  case ends_create =>
    intro c project job ts result request hends hmem
    rw [← h]
    exact settled_is_last hends hmem hfatal.not_busy
  case ends_get =>
    intro c project id location ts result request hends hmem
    rw [← h]
    exact settled_is_last hends hmem hfatal.not_busy
  case ends_submission =>
    intro project job ts result hid hends
    exact submission_of_fatal hclass hid hends
  case ends_wait =>
    intro limit errors reference
    simp [looked, Waiting.judge, Waiting.transientCause?, RemoteFault.during, hclass]
  case ends_export =>
    intro c e rounds project source destinations wait watcher ts result request hends hmem
    rcases exported_of_run hends with ⟨hnone, -⟩ | ⟨_, -, hexported⟩
    · rw [hnone] at hmem
      cases hmem
    · exact hexported.fatal_is_last hmem hfatal

/-- The record of a job with the status of a success gives a handle exactly if it is clear, and the
handle says what the record says; otherwise it gives a fault that counts as fatal. So when a success
arrives as a whole and is no job, nobody asks again. And an export that fails because its job failed
tells so in the words that the service put into its last reply. -/
theorem successes_are_jobs_or_fatal :
    (∀ (resource : Wire.Job) (status : UInt16), isSuccess status = true →
      (∃ handle, resource.handle status = .ok handle ∧ resource.Clear ∧ resource.Agrees handle) ∨
      ∃ fault, resource.handle status = .error fault ∧ ¬ resource.Clear ∧
        fault.classify = .fatal) ∧
    (∀ (answer : HttpAnswer) (text : String) (fault : RemoteFault),
      isSuccess answer.status = true → answer.text? = some text →
      shown (.ok answer) = .error fault → AskedNoMore answer fault) ∧
    ∀ (c : Client) (e : Exporter) rounds project source destinations wait (watcher : Watcher) ts
      (failure : StagedFault),
      (c.overHttp (e.run rounds project source destinations wait watcher.onTick)).Ends ts
        (.error (.remote failure)) → failure.stage = .execution →
      ∃ before request reply resource note, exchanges ts = before ++ [(request, reply)] ∧
        resource? reply = some resource ∧ resource.Failed note ∧ failure = failureNoted note := by
  refine ⟨?_, ?_, ?_⟩
  · intro resource status hsuccess
    cases h : resource.handle status with
    | ok handle =>
      exact .inl ⟨handle, rfl, Wire.Job.handle_isOk_iff.mp ⟨handle, h⟩, Wire.Job.agrees_of_handle h⟩
    | error fault =>
      refine .inr ⟨fault, rfl, ?_, Wire.Job.fatal_of_handle hsuccess h⟩
      intro hclear
      obtain ⟨handle, hok⟩ : ∃ handle, resource.handle status = .ok handle :=
        Wire.Job.handle_isOk_iff.mpr hclear
      rw [h] at hok
      cases hok
  · intro answer text fault hsuccess htext h
    exact askedNoMore_of_success hsuccess htext h
  · intro c e rounds project source destinations wait watcher ts failure hends hstage
    rcases exported_of_run hends with ⟨-, _, hrefused⟩ | ⟨_, -, hexported⟩
    · cases hrefused
    · exact hexported.noted hstage

end Client
end WarehouseJobs
