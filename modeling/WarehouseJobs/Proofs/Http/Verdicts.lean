-- The class of an answer that is no success. The body of the answer may name a status of its
-- own, and the class follows that one; only where the body names none, or one that comes to
-- the same, does the status of the answer itself decide. All that act on a fault act on its
-- class alone: the tries of a request, submissions, waits and looks at tables.
import WarehouseJobs.Inspection
import WarehouseJobs.Proofs.Http.Replies
import WarehouseJobs.Proofs.Submission.Courses

namespace WarehouseJobs

open Program

/-! ## What a status says by itself -/

namespace RemoteFault

/-- The class that a status stands for, if it decides. -/
def decided? (status : UInt16) : Option FaultClass :=
  if status = 404 then some .notFound
  else if status = 409 then some .alreadyExists
  else if busyStatuses.contains status then some .transient
  else none

/-- A status that decides comes first, then the reason. -/
theorem classify_eq (status : UInt16) (reason : Option String) (message : String) :
    classify ⟨some status, reason, message⟩ =
      (decided? status).getD ((reason.map (classOfReason (some status))).getD .fatal) := by
  unfold classify decided?
  simp only
  by_cases h404 : status = 404
  · rw [if_pos h404, if_pos h404]
    rfl
  · rw [if_neg h404, if_neg h404]
    by_cases h409 : status = 409
    · rw [if_pos h409, if_pos h409]
      rfl
    · rw [if_neg h409, if_neg h409]
      split <;> rfl

theorem decided?_ne_fatal (status : UInt16) : decided? status ≠ some .fatal := by
  unfold decided?
  split
  · simp
  · split
    · simp
    · split <;> simp

/-- No status that decides is one of a success. -/
theorem isSuccess_of_decided {status : UInt16} {verdict : FaultClass}
    (h : decided? status = some verdict) : Client.isSuccess status = false := by
  unfold decided? at h
  split at h
  · subst status
    rfl
  · split at h
    · subst status
      rfl
    · split at h
      · rename_i hbusy
        exact Client.isSuccess_of_busy (List.contains_iff_mem.mp hbusy)
      · cases h

/-- What is no answer to a request counts as fatal, where the status is one of a success. -/
theorem classify_invalidResponse {status : UInt16} (h : Client.isSuccess status = true)
    (message : String) : (invalidResponse status message).classify = .fatal := by
  unfold invalidResponse
  rw [classify_eq]
  cases hdecided : decided? status with
  | none => rfl
  | some verdict =>
    rw [isSuccess_of_decided hdecided] at h
    cases h

end RemoteFault

/-! ## What a body says beside it -/

namespace Wire

open RemoteFault (decided? classOfReason)

/-- The status that a body of the agreed form names. -/
def statusIn (body : String) : Option UInt16 := (FaultBody.ofText? body).bind FaultBody.code

/-- The first reason that a body of the agreed form gives. -/
def reasonIn (body : String) : Option String := (FaultBody.ofText? body).bind FaultBody.reason

theorem faultOf_status (status : UInt16) (body : String) :
    (faultOf status body).status = some ((statusIn body).getD status) := by
  unfold faultOf statusIn
  cases FaultBody.ofText? body <;> rfl

theorem faultOf_reason (status : UInt16) (body : String) :
    (faultOf status body).reason = reasonIn body := by
  unfold faultOf reasonIn
  cases FaultBody.ofText? body <;> rfl

/-- The class comes from the status that the body names, if it names one. -/
theorem classify_faultOf (status : UInt16) (body : String) :
    (faultOf status body).classify =
      (decided? ((statusIn body).getD status)).getD
        (((reasonIn body).map (classOfReason (some ((statusIn body).getD status)))).getD .fatal) := by
  have hfault : faultOf status body = ⟨some ((statusIn body).getD status), reasonIn body,
      (faultOf status body).message⟩ := by
    rw [← faultOf_status, ← faultOf_reason]
  rw [hfault, RemoteFault.classify_eq]

/-- A body goes along with a verdict: it names no status, or one that stands for the verdict,
or one that decides nothing, beside a reason that does. -/
def GoesAlong (body : String) (verdict : FaultClass) : Prop :=
  ∀ code, statusIn body = some code → decided? code = some verdict ∨
    decided? code = none ∧ ∃ reason, reasonIn body = some reason ∧
      classOfReason (some code) reason = verdict

/-- The status of an answer decides exactly if the body goes along. -/
theorem classify_faultOf_iff {status : UInt16} {verdict : FaultClass}
    (hstatus : decided? status = some verdict) (body : String) :
    (faultOf status body).classify = verdict ↔ GoesAlong body verdict := by
  have hfatal : FaultClass.fatal ≠ verdict := by
    rintro rfl
    exact RemoteFault.decided?_ne_fatal status hstatus
  rw [classify_faultOf]
  unfold GoesAlong
  cases hcode : statusIn body with
  | none => simp [hstatus]
  | some code =>
    cases hdecided : decided? code with
    | some other => simp [hdecided]
    | none =>
      cases hreason : reasonIn body with
      | none => simp [hdecided, hfatal]
      | some reason => simp [hdecided]

end Wire

/-! ## Who acts on the class -/

/-- A request with tries left is tried again exactly if the fault of the reply is transient. -/
theorem Client.tried_again_iff {α β : Type} {read : Json → Option α}
    {value : α → UInt16 → Except RemoteFault β} {s : RetrySettings} {request : HttpRequest}
    {reply : Reply} {left done : Nat} {delay : UInt64} {ts : List (Turn HttpSignature)}
    {later : List (HttpRequest × Reply)} {result : Except RemoteFault β}
    (h : (retrying s (exchange (.ok request) read value) (left + 1) done delay).Ends ts result)
    (hts : exchanges ts = (request, reply) :: later) :
    later ≠ [] ↔ Busy (reading read value reply) := by
  have htried := tried_of_ends h
  rw [hts] at htried
  cases htried with
  | last hlast =>
    constructor
    · intro hlater
      exact absurd rfl hlater
    · intro hbusy
      exact absurd (hlast hbusy) (Nat.succ_ne_zero left)
  | again hbusy hrest =>
    constructor
    · intro _
      exact hbusy
    · intro _ hlater
      obtain ⟨_, _, hfirst⟩ := hrest.first
      rw [hlater] at hfirst
      cases hfirst

namespace Submission

/-- A submission takes a fault for a duplicate, and looks the job up, exactly if the job is
there already by the class of the fault. -/
theorem looked_up_iff {project : ProjectId} {job : JobDescription} {cause : RemoteFault}
    {ts : List (Turn WorkSignature)} {result : Except Fault SubmitOutcome}
    (hid : job.reference.id.text.isEmpty = false)
    (h : (submitClassified project job).Ends (createTurn project job (.error cause) :: ts)
      result) :
    (∃ answer, lookupTurn project job answer ∈ ts) ↔ cause.classify = .alreadyExists := by
  rcases (course_of_ends hid h).asked with
    ⟨answer, events, hts, hne, -⟩ | ⟨cause', event, answer, hts, hex, -⟩
  · obtain ⟨hturn, rfl⟩ := List.cons.inj hts
    cases hturn
    constructor
    · rintro ⟨answer, hmem⟩
      obtain ⟨event, -, hlog⟩ := List.mem_map.mp hmem
      cases hlog
    · intro hexists
      exact absurd hexists (hne cause rfl)
  · obtain ⟨hturn, rfl⟩ := List.cons.inj hts
    cases hturn
    constructor
    · intro _
      exact hex
    · intro _
      exact ⟨answer, by simp⟩

end Submission

/-- A wait goes on after a fault exactly if the fault is transient and another one is put up
with. -/
theorem Waiting.goes_on_iff (limit errors : UInt32) (reference : JobReference)
    (cause : RemoteFault) :
    (∃ counted, judge limit errors (looked .polling reference (.error cause)) = .again counted) ↔
      cause.classify = .transient ∧ ¬ limit < errors + 1 := by
  unfold looked judge transientCause? RemoteFault.during
  by_cases hc : cause.classify = .transient
  · by_cases hl : limit < errors + 1 <;> simp [hc, hl]
  · simp [hc]

/-- What was asked about a table, and what was answered. -/
def Inspection.tableTurn (reference : TableReference) (answer : Except RemoteFault Table) :
    Turn WorkSignature := ⟨.table reference, answer⟩

/-- A table counts as missing exactly if it is not there by the class of the fault. -/
theorem Inspection.missing_iff {reference : TableReference} {ts : List (Turn WorkSignature)} :
    (tableExists reference).Ends ts (.ok false) ↔
      ∃ cause : RemoteFault, ts = [tableTurn reference (.error cause)] ∧
        cause.classify = .notFound := by
  unfold tableExists
  rw [Work.ends_table_iff]
  constructor
  · rintro ⟨answer, rest, rfl, h⟩
    cases answer with
    | ok table => simpa using ends_done_iff.mp h
    | error cause =>
      simp only at h
      by_cases hc : (cause.during .inspection).verdict = .notFound
      · rw [if_pos hc] at h
        obtain ⟨rfl, -⟩ := ends_done_iff.mp h
        exact ⟨cause, rfl, hc⟩
      · rw [if_neg hc] at h
        simpa using ends_done_iff.mp h
  · rintro ⟨cause, rfl, hc⟩
    have hverdict : (cause.during .inspection).verdict = .notFound := hc
    refine ⟨.error cause, [], rfl, ?_⟩
    simp only
    rw [if_pos hverdict]
    exact ends_done_iff.mpr ⟨rfl, rfl⟩

/-! ## Failed answers -/

/-- The fault that an answer which is no success reads as. -/
def failureOf (answer : HttpAnswer) : RemoteFault :=
  Wire.faultOf answer.status (answer.text?.getD "")

/-- An answer whose status decides has the class of that status exactly if its body goes
along, and all that follows from the answer follows from this class: whether its request is
tried again, whether a submission takes it for a duplicate, whether a wait goes on, and whether
a table counts as missing. -/
theorem failed_answer_has_class_of_status_iff {answer : HttpAnswer} {verdict : FaultClass}
    (hstatus : RemoteFault.decided? answer.status = some verdict) :
    ((failureOf answer).classify = verdict ↔
      Wire.GoesAlong (answer.text?.getD "") verdict) ∧
    (∀ {α β : Type} (read : Json → Option α) (value : α → UInt16 → Except RemoteFault β)
      (s : RetrySettings) (request : HttpRequest) (left done : Nat) (delay : UInt64)
      (ts : List (Turn HttpSignature)) (later : List (HttpRequest × Client.Reply))
      (result : Except RemoteFault β),
      (Client.retrying s (Client.exchange (.ok request) read value) (left + 1) done delay).Ends
        ts result → Client.exchanges ts = (request, .ok answer) :: later →
      (later ≠ [] ↔ (failureOf answer).classify = .transient)) ∧
    (∀ (project : ProjectId) (job : JobDescription) (ts : List (Turn WorkSignature))
      (result : Except Fault SubmitOutcome), job.reference.id.text.isEmpty = false →
      (Submission.submitClassified project job).Ends
        (Submission.createTurn project job (.error (failureOf answer)) :: ts) result →
      ((∃ found, Submission.lookupTurn project job found ∈ ts) ↔
        (failureOf answer).classify = .alreadyExists)) ∧
    (∀ (limit errors : UInt32) (reference : JobReference),
      (∃ counted, Waiting.judge limit errors
        (looked .polling reference (.error (failureOf answer))) = .again counted) ↔
        (failureOf answer).classify = .transient ∧ ¬ limit < errors + 1) ∧
    ∀ reference : TableReference,
      (Inspection.tableExists reference).Ends
        [Inspection.tableTurn reference (.error (failureOf answer))] (.ok false) ↔
        (failureOf answer).classify = .notFound := by
  have hread : ∀ {α β : Type} (read : Json → Option α)
      (value : α → UInt16 → Except RemoteFault β),
      Client.reading read value (.ok answer) = .error (failureOf answer) := by
    intro α β read value
    simp only [Client.reading, Client.meaning, RemoteFault.isSuccess_of_decided hstatus]
    rfl
  refine ⟨Wire.classify_faultOf_iff hstatus _, ?_, ?_, ?_, ?_⟩
  · intro α β read value s request left done delay ts later result h hts
    rw [Client.tried_again_iff h hts, hread, busy_error_iff]
  · intro project job ts result hid h
    exact Submission.looked_up_iff hid h
  · intro limit errors reference
    exact Waiting.goes_on_iff limit errors reference (failureOf answer)
  · intro reference
    rw [Inspection.missing_iff]
    constructor
    · rintro ⟨cause, hturn, hc⟩
      cases hturn
      exact hc
    · intro hc
      exact ⟨failureOf answer, rfl, hc⟩

/-- A busy answer of a server that does not speak of statuses in its body. -/
theorem plain_busy_answer_is_transient :
    RemoteFault.decided? 503 = some .transient ∧
      (failureOf ⟨503, some "busy"⟩).classify = .transient := by
  let answer : HttpAnswer := ⟨503, some "busy"⟩
  have hstatus : RemoteFault.decided? answer.status = some .transient := by decide
  have hnone : Wire.statusIn "busy" = none := by decide +kernel
  have hbody : Wire.GoesAlong "busy" .transient := by
    intro code hcode
    rw [hnone] at hcode
    cases hcode
  exact ⟨hstatus, (failed_answer_has_class_of_status_iff hstatus).1.mpr hbody⟩

/-- Something that is not there, according to the status, and is there already, according to
the body. It is taken for a duplicate. -/
theorem missing_job_read_as_duplicate :
    ¬ ∀ (status : UInt16) (body : String), Client.isSuccess status = false → status = 404 →
      (Wire.faultOf status body).classify = .notFound := by
  intro h
  have hclass : (Wire.faultOf 404 "\x7b\"error\": \x7b\"code\": 409\x7d\x7d").classify =
      .alreadyExists := by decide +kernel
  have hclaim := h 404 "\x7b\"error\": \x7b\"code\": 409\x7d\x7d" (by decide) rfl
  rw [hclass] at hclaim
  cases hclaim

end WarehouseJobs
