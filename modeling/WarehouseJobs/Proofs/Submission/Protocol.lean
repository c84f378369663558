-- The protocol of a submission, told by what the service answers: one create, and a look-up
-- exactly if the create fails because the id is taken. Whatever is answered, the result says what
-- it was, and about which job.
import WarehouseJobs.Proofs.Programs.Minding
import WarehouseJobs.Proofs.Reasons

namespace WarehouseJobs.Submission

open Program

/-- A create is answered with `created`, and a look-up with `found`. -/
def AnsweredWith (created found : Except RemoteFault JobHandle) : Turn WorkSignature → Prop
  | ⟨.create _ _, answer⟩ => answer = created
  | ⟨.get _ _ _, answer⟩ => answer = found
  | _ => True

/-- The create failed because the id is taken. -/
def IdTaken : Except RemoteFault JobHandle → Prop
  | .ok _ => False
  | .error cause => cause.SaysTaken

instance : DecidablePred IdTaken
  | .ok _ => .isFalse id
  | .error cause => inferInstanceAs (Decidable cause.SaysTaken)

/-- What a submission asks the service, and what it comes to. -/
structure Follows (project : ProjectId) (job : JobDescription)
    (created found : Except RemoteFault JobHandle) (ts : List (Turn WorkSignature))
    (result : Except Fault SubmitOutcome) : Prop where
  /-- The service is asked for the create once, and for the job exactly if the id is taken. -/
  asked : (ts.filter fun t => !t.isLocal) = createTurn project job created ::
    if IdTaken created then [lookupTurn project job found] else []
  created_own : ∀ handle, created = .ok handle →
    job.reference.sameJob handle.reference = true → result = .ok (.created handle)
  created_other : ∀ handle, created = .ok handle →
    job.reference.sameJob handle.reference = false →
      result = .error (.identity job.reference handle.reference)
  rejected : ∀ cause, created = .error cause → ¬ cause.SaysTaken →
    result = .error (.remote ⟨cause.classify, .submission, cause⟩) ∧
      cause.classify ≠ .alreadyExists
  found_own : ∀ handle, IdTaken created → found = .ok handle →
    job.reference.sameJob handle.reference = true → result = .ok (.duplicate handle)
  found_other : ∀ handle, IdTaken created → found = .ok handle →
    job.reference.sameJob handle.reference = false →
      result = .error (.identity job.reference handle.reference)
  lookup_failed : ∀ failure, IdTaken created → found = .error failure →
    result = .error (.remote ⟨failure.classify, .submission, failure⟩)

variable {project : ProjectId} {job : JobDescription} {ts : List (Turn WorkSignature)}
  {result : Except Fault SubmitOutcome} {created found answer : Except RemoteFault JobHandle}

@[simp] theorem answeredWith_createTurn_iff :
    AnsweredWith created found (createTurn project job answer) ↔ answer = created := Iff.rfl

@[simp] theorem answeredWith_lookupTurn_iff :
    AnsweredWith created found (lookupTurn project job answer) ↔ answer = found := Iff.rfl

@[simp] theorem answeredWith_logTurn (event : LogEvent) :
    AnsweredWith created found (logTurn event) := trivial

/-- Remarks ask nothing of the service. -/
theorem filter_remarks (events : List LogEvent) :
    ((events.map logTurn).filter fun t => !t.isLocal) = [] := by
  rw [List.filter_eq_nil_iff]
  intro t ht
  obtain ⟨event, -, rfl⟩ := List.mem_map.mp ht
  simp [Turn.isLocal, WorkRequest.isLocal, logTurn]

/-- Every course follows the protocol. -/
theorem Course.follows (h : Course project job ts result)
    (hanswers : ∀ t ∈ ts, AnsweredWith created found t) :
    Follows project job created found ts result := by
  rcases h.asked with ⟨answer, events, rfl, hfree, rfl⟩ | ⟨cause, event, answer, rfl, hc, rfl⟩
  · have hcreated : answer = created := hanswers (createTurn project job answer) (by simp)
    subst hcreated
    have hnot : ¬ IdTaken answer := by
      cases answer with
      | ok handle => exact id
      | error cause =>
        exact mt (RemoteFault.classify_eq_alreadyExists_iff cause).mpr (hfree cause rfl)
    constructor
    case asked =>
      rw [if_neg hnot, List.filter_cons_of_pos (by rfl), filter_remarks]
    case created_own =>
      rintro handle rfl same
      rw [looked_of_same same]
      rfl
    case created_other =>
      rintro handle rfl other
      rw [looked_of_other other]
      rfl
    case rejected =>
      rintro cause rfl -
      exact ⟨rfl, hfree cause rfl⟩
    all_goals
      intros
      contradiction
  · have hcreated : .error cause = created := hanswers (createTurn project job _) (by simp)
    have hfound : answer = found := hanswers (lookupTurn project job answer) (by simp)
    subst hcreated hfound
    have htaken : IdTaken (.error cause) := (RemoteFault.classify_eq_alreadyExists_iff cause).mp hc
    constructor
    case asked =>
      rw [if_pos htaken]
      rfl
    case rejected =>
      rintro _ ⟨⟩ hfree
      exact absurd htaken hfree
    case found_own =>
      rintro handle - rfl same
      rw [looked_of_same same]
      rfl
    case found_other =>
      rintro handle - rfl other
      rw [looked_of_other other]
      rfl
    case lookup_failed =>
      rintro failure - rfl
      rfl
    all_goals
      rintro _ ⟨⟩

/-- Any two answers are met by some course. -/
theorem exists_course_answeredWith (project : ProjectId) (job : JobDescription)
    (created found : Except RemoteFault JobHandle) : ∃ ts result,
      Course project job ts result ∧ ∀ t ∈ ts, AnsweredWith created found t := by
  cases created with
  | ok handle =>
    cases same : job.reference.sameJob handle.reference with
    | true => exact ⟨_, _, .created same, by simp⟩
    | false => exact ⟨_, _, .foreign same, by simp⟩
  | error cause =>
    by_cases hc : cause.classify = .alreadyExists
    · cases found with
      | error failure =>
        exact ⟨_, _, @Course.lookupFailed _ _ _ failure hc, by simp⟩
      | ok handle =>
        cases same : job.reference.sameJob handle.reference with
        | true => exact ⟨_, _, .duplicate hc same, by simp⟩
        | false => exact ⟨_, _, .foreignDuplicate hc same, by simp⟩
    · exact ⟨_, _, .rejected hc, by simp⟩

/-- A submission without an id is refused, and asks for nothing. Any other one ends, whatever it
is answered, and follows the protocol for the answers that it gets; every two answers can be
got. -/
theorem submission_follows_its_answers (project : ProjectId) (job : JobDescription) :
    (job.reference.id.text.isEmpty = true → ∀ ts result,
      (submitClassified project job).Ends ts result ↔
        ts = [] ∧ result = .error (.argument .missingJobId)) ∧
    (job.reference.id.text.isEmpty = false →
      (submitClassified project job).EndsWithin 3 ∧
      ∀ created found : Except RemoteFault JobHandle,
        (∃ ts result, (submitClassified project job).Ends ts result ∧
          ∀ t ∈ ts, AnsweredWith created found t) ∧
        ∀ ts result, (submitClassified project job).Ends ts result →
          (∀ t ∈ ts, AnsweredWith created found t) →
            Follows project job created found ts result) := by
  constructor
  · intro hid ts result
    have hrefused : submitClassified project job = .done (.error (.argument .missingJobId)) :=
      if_pos hid
    rw [hrefused, ends_done_iff, eq_comm (a := result)]
  · intro hid
    refine ⟨submitClassified_endsWithin hid, fun created found => ⟨?_, ?_⟩⟩
    · obtain ⟨ts, result, hcourse, hanswers⟩ := exists_course_answeredWith project job created found
      exact ⟨ts, result, hcourse.ends hid, hanswers⟩
    · intro ts result hends hanswers
      exact (course_of_ends hid hends).follows hanswers

end WarehouseJobs.Submission
