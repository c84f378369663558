-- The courses a submission can take. There are six of them, told by what the service was
-- asked and what it answered; each law about submissions goes through these six cases and
-- never opens the program again.
import WarehouseJobs.Proofs.Programs.Requests
import WarehouseJobs.Proofs.Submission.Looks

namespace WarehouseJobs.Submission

open Program

/-! ## The turns of a submission -/

def createTurn (project : ProjectId) (job : JobDescription)
    (answer : Except RemoteFault JobHandle) : Turn WorkSignature := ⟨.create project job, answer⟩

/-- The job that has the id is looked up. -/
def lookupTurn (project : ProjectId) (job : JobDescription)
    (answer : Except RemoteFault JobHandle) : Turn WorkSignature :=
  ⟨.get project job.reference.id job.reference.location, answer⟩

def logTurn (event : LogEvent) : Turn WorkSignature := ⟨.locally (.log event), ()⟩

def isCreate (t : Turn WorkSignature) : Bool :=
  match t.request with
  | .create _ _ => true
  | _ => false

def isGet (t : Turn WorkSignature) : Bool :=
  match t.request with
  | .get _ _ _ => true
  | _ => false

/-! ## The courses -/

/-- The turns of a submission of a job that has an id, and what comes of them. -/
inductive Course (project : ProjectId) (job : JobDescription) :
    List (Turn WorkSignature) → Except Fault SubmitOutcome → Prop
  | created {handle : JobHandle} (same : job.reference.sameJob handle.reference = true) :
      Course project job
        [createTurn project job (.ok handle), logTurn (createdEvent project job handle)]
        (.ok (.created handle))
  | foreign {handle : JobHandle} (other : job.reference.sameJob handle.reference = false) :
      Course project job [createTurn project job (.ok handle)]
        (.error (.identity job.reference handle.reference))
  | rejected {cause : RemoteFault} (h : cause.classify ≠ .alreadyExists) :
      Course project job
        [createTurn project job (.error cause),
          logTurn (rejectedEvent project job (cause.during .submission))]
        (.error (.remote (cause.during .submission)))
  | duplicate {cause : RemoteFault} {handle : JobHandle} (h : cause.classify = .alreadyExists)
      (same : job.reference.sameJob handle.reference = true) :
      Course project job
        [createTurn project job (.error cause), logTurn (lookupEvent project job),
          lookupTurn project job (.ok handle)]
        (.ok (.duplicate handle))
  | foreignDuplicate {cause : RemoteFault} {handle : JobHandle}
      (h : cause.classify = .alreadyExists)
      (other : job.reference.sameJob handle.reference = false) :
      Course project job
        [createTurn project job (.error cause), logTurn (lookupEvent project job),
          lookupTurn project job (.ok handle)]
        (.error (.identity job.reference handle.reference))
  | lookupFailed {cause failure : RemoteFault} (h : cause.classify = .alreadyExists) :
      Course project job
        [createTurn project job (.error cause), logTurn (lookupEvent project job),
          lookupTurn project job (.error failure)]
        (.error (.remote (failure.during .submission)))

variable {project : ProjectId} {job : JobDescription} {ts : List (Turn WorkSignature)}
  {result : Except Fault SubmitOutcome}

/-! ## The program, branch by branch -/

theorem lookUp_eq : lookUp project job = (do
    Work.log (lookupEvent project job)
    let answer ← Work.get project job.reference.id job.reference.location
    pure ((looked .submission job.reference answer).map .duplicate)) := by
  unfold lookUp
  congr 1
  funext _
  congr 1
  funext answer
  cases answer with
  | error failure => rfl
  | ok handle =>
    cases same : job.reference.sameJob handle.reference with
    | true => simp only [looked_of_same same, checkIdentity_of_same same, Except.map]
    | false => simp only [looked_of_other same, checkIdentity_of_other same, Except.map]

/-- What becomes of an error in answer to a create. -/
def afterError (project : ProjectId) (job : JobDescription) (cause : RemoteFault) :
    Work (Except Fault SubmitOutcome) :=
  if cause.classify = .alreadyExists then lookUp project job
  else reject project job (cause.during .submission)

theorem submitClassified_eq (hid : job.reference.id.text.isEmpty = false) :
    submitClassified project job = (do
      match ← Work.create project job with
      | .ok handle => accept project job handle
      | .error cause => afterError project job cause) := by
  unfold submitClassified
  rw [if_neg (by simp [hid])]
  congr 1
  funext answer
  cases answer with
  | ok handle => rfl
  | error cause =>
    simp only [afterError, RemoteFault.during]
    cases cause.classify <;> rfl

/-- The courses in short: either the create is all that is asked, or it fails because the job
is there and a look-up follows. -/
theorem Course.asked (h : Course project job ts result) :
    (∃ answer events, ts = createTurn project job answer :: List.map logTurn events ∧
      (∀ cause : RemoteFault, answer = .error cause → cause.classify ≠ .alreadyExists) ∧
      result = (looked .submission job.reference answer).map .created) ∨
    ∃ cause event answer, ts = [createTurn project job (.error cause), logTurn event,
        lookupTurn project job answer] ∧ cause.classify = .alreadyExists ∧
      result = (looked .submission job.reference answer).map .duplicate := by
  cases h with
  | created same => exact .inl ⟨_, [_], rfl, nofun, by rw [looked_of_same same]; rfl⟩
  | foreign other => exact .inl ⟨_, [], rfl, nofun, by rw [looked_of_other other]; rfl⟩
  | rejected hc =>
    refine .inl ⟨_, [_], rfl, ?_, rfl⟩
    rintro _ ⟨⟩
    exact hc
  | duplicate hc same => exact .inr ⟨_, _, _, rfl, hc, by rw [looked_of_same same]; rfl⟩
  | foreignDuplicate hc other =>
    exact .inr ⟨_, _, _, rfl, hc, by rw [looked_of_other other]; rfl⟩
  | lookupFailed hc => exact .inr ⟨_, _, _, rfl, hc, rfl⟩

/-! ## A submission takes one of the courses -/

theorem course_of_ends_accept {handle : JobHandle}
    (h : (accept project job handle).Ends ts result) :
    Course project job (createTurn project job (.ok handle) :: ts) result := by
  unfold accept at h
  by_cases same : job.reference.sameJob handle.reference = true
  · simp only [checkIdentity_of_same same] at h
    rw [Work.ends_log_iff] at h
    obtain ⟨rest, rfl, h⟩ := h
    obtain ⟨rfl, rfl⟩ := ends_done_iff.mp h
    exact .created same
  · rw [Bool.not_eq_true] at same
    simp only [checkIdentity_of_other same] at h
    obtain ⟨rfl, rfl⟩ := ends_done_iff.mp h
    exact .foreign same

theorem course_of_ends_lookUp {cause : RemoteFault} (hc : cause.classify = .alreadyExists)
    (h : (lookUp project job).Ends ts result) :
    Course project job (createTurn project job (.error cause) :: ts) result := by
  rw [lookUp_eq, Work.ends_log_iff] at h
  obtain ⟨rest, rfl, h⟩ := h
  rw [Work.ends_get_iff] at h
  obtain ⟨answer, rest, rfl, h⟩ := h
  obtain ⟨rfl, rfl⟩ := ends_done_iff.mp h
  cases answer with
  | error failure => exact .lookupFailed hc
  | ok handle =>
    cases same : job.reference.sameJob handle.reference with
    | true =>
      rw [looked_of_same same]
      exact .duplicate hc same
    | false =>
      rw [looked_of_other same]
      exact .foreignDuplicate hc same

theorem course_of_ends_reject {cause : RemoteFault} (hc : cause.classify ≠ .alreadyExists)
    (h : (reject project job (cause.during .submission)).Ends ts result) :
    Course project job (createTurn project job (.error cause) :: ts) result := by
  unfold reject at h
  rw [Work.ends_log_iff] at h
  obtain ⟨rest, rfl, h⟩ := h
  obtain ⟨rfl, rfl⟩ := ends_done_iff.mp h
  exact .rejected hc

/-- A submission of a job with an id takes one of the courses. -/
theorem course_of_ends (hid : job.reference.id.text.isEmpty = false)
    (h : (submitClassified project job).Ends ts result) : Course project job ts result := by
  rw [submitClassified_eq hid, Work.ends_create_iff] at h
  obtain ⟨answer, rest, rfl, h⟩ := h
  cases answer with
  | ok handle => exact course_of_ends_accept h
  | error cause =>
    simp only [afterError] at h
    split at h
    · exact course_of_ends_lookUp ‹_› h
    · exact course_of_ends_reject ‹_› h

/-! ## Each course can be taken -/

theorem ends_lookUp (answer : Except RemoteFault JobHandle) :
    (lookUp project job).Ends
      [logTurn (lookupEvent project job), lookupTurn project job answer]
      ((looked .submission job.reference answer).map .duplicate) := by
  rw [lookUp_eq]
  exact .turn (.turn (.here _))

theorem Course.ends (hid : job.reference.id.text.isEmpty = false)
    (h : Course project job ts result) : (submitClassified project job).Ends ts result := by
  rw [submitClassified_eq hid, Work.ends_create_iff]
  cases h with
  | created same =>
    refine ⟨_, _, rfl, ?_⟩
    simp only [accept, checkIdentity_of_same same]
    exact .turn (.here _)
  | foreign other =>
    refine ⟨_, _, rfl, ?_⟩
    simp only [accept, checkIdentity_of_other other]
    exact .here _
  | rejected hc =>
    refine ⟨_, _, rfl, ?_⟩
    simp only [afterError, if_neg hc]
    exact .turn (.here _)
  | @duplicate _ handle hc same =>
    refine ⟨_, _, rfl, ?_⟩
    simp only [afterError, if_pos hc]
    have h : (lookUp project job).Ends _ _ := ends_lookUp (.ok handle)
    rwa [looked_of_same same] at h
  | @foreignDuplicate _ handle hc other =>
    refine ⟨_, _, rfl, ?_⟩
    simp only [afterError, if_pos hc]
    have h : (lookUp project job).Ends _ _ := ends_lookUp (.ok handle)
    rwa [looked_of_other other] at h
  | @lookupFailed _ failure hc =>
    refine ⟨_, _, rfl, ?_⟩
    simp only [afterError, if_pos hc]
    exact ends_lookUp (.error failure)

/-- A submission asks for three things at most, and ends. -/
theorem submitClassified_endsWithin (hid : job.reference.id.text.isEmpty = false) :
    (submitClassified project job).EndsWithin 3 := by
  rw [submitClassified_eq hid]
  intro answer
  cases answer with
  | ok handle =>
    show EndsWithin 2 (accept project job handle)
    unfold accept
    split
    · trivial
    · exact fun _ => trivial
  | error cause =>
    show EndsWithin 2 (afterError project job cause)
    unfold afterError
    split
    · rw [lookUp_eq]
      exact fun _ _ => trivial
    · exact fun _ => trivial

end WarehouseJobs.Submission
