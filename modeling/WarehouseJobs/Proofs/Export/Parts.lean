-- The parts of an export, one by one: what each may ask the service for, and what it can come to.
-- A submission asks for one create and gives the job asked for or a fault of its own; a wait asks
-- for looks only, and ends with the first one that shows the job at its end.
import WarehouseJobs.Proofs.Export.OwnJob
import WarehouseJobs.Proofs.Programs.Heeding

namespace WarehouseJobs

open Program

/-! ## What turns show -/

namespace Turn

/-- What a create asks for. -/
def create? : Turn WorkSignature → Option (ProjectId × JobDescription)
  | ⟨.create project job, _⟩ => some (project, job)
  | _ => none

/-- Whoever waits is told of a look. -/
def isTick : Turn WorkSignature → Bool
  | ⟨.locally (.tick _), _⟩ => true
  | _ => false

end Turn

def creates (ts : List (Turn WorkSignature)) : List (ProjectId × JobDescription) :=
  ts.filterMap Turn.create?

def ticks (ts : List (Turn WorkSignature)) : Nat := ts.countP Turn.isTick

def drawTurn (u : Uuid) : Turn WorkSignature := ⟨.locally .draw, u⟩

def nowTurn (time : Nanos) : Turn WorkSignature := ⟨.locally .now, time⟩

/-- Of all that concerns the service, only looks at one job are asked for. -/
def LooksAt (project : ProjectId) (id : JobId) : WorkRequest → Prop
  | .get project' id' _ => project' = project ∧ id' = id
  | .locally _ => True
  | _ => False

/-- Of all that concerns the service, only looks at the job of one reference are asked for, and each
of them passes on the location of the reference. -/
def LooksUnder (project : ProjectId) (reference : JobReference) : WorkRequest → Prop
  | .get project' id location =>
    project' = project ∧ id = reference.id ∧ location = reference.location
  | .locally _ => True
  | _ => False

theorem LooksUnder.looksAt {project : ProjectId} {reference : JobReference} {request : WorkRequest}
    (h : LooksUnder project reference request) : LooksAt project reference.id request := by
  cases request with
  | get => exact ⟨h.1, h.2.1⟩
  | _ => exact h

theorem creates_of_looksAt {project : ProjectId} {id : JobId} {ts : List (Turn WorkSignature)}
    (h : ∀ t ∈ ts, LooksAt project id t.request) : creates ts = [] := by
  refine List.filterMap_eq_nil_iff.mpr fun t ht => ?_
  have hlooks := h t ht
  obtain ⟨request, answer⟩ := t
  cases request <;> first | rfl | exact hlooks.elim

/-- A watcher of whom it is noted when it is told of a look. -/
def Watcher.noted (watcher : Watcher) : Watcher where
  onTick count := do
    Work.tick count
    watcher.onTick count
  aloof count := ⟨rfl, fun _ => watcher.aloof count⟩

/-! ## Submissions -/

namespace Submission

variable {project : ProjectId} {job : JobDescription} {ts : List (Turn WorkSignature)}

theorem accept_asksOnly (handle : JobHandle) :
    (accept project job handle).AsksOnly (LooksUnder project job.reference) := by
  unfold accept
  split
  · trivial
  · exact ⟨trivial, fun _ => trivial⟩

theorem afterError_asksOnly (cause : RemoteFault) :
    (afterError project job cause).AsksOnly (LooksUnder project job.reference) := by
  unfold afterError
  split
  · rw [lookUp_eq]
    exact ⟨trivial, fun _ => ⟨⟨rfl, rfl, rfl⟩, fun _ => trivial⟩⟩
  · exact ⟨trivial, fun _ => trivial⟩

/-- What a submission does with the answer to its create. -/
def afterCreate (project : ProjectId) (job : JobDescription) :
    Except RemoteFault JobHandle → Work (Except Fault SubmitOutcome)
  | .ok handle => accept project job handle
  | .error cause => afterError project job cause

theorem submit_eq : submit project job = (do
    let classified ← submitClassified project job
    pure (classified.map SubmitOutcome.handle)) := by
  unfold submit
  congr 1
  funext classified
  cases classified <;> rfl

theorem submit_creates (hid : job.reference.id.text.isEmpty = false) : submit project job = (do
    let answer ← Work.create project job
    let classified ← afterCreate project job answer
    pure (classified.map SubmitOutcome.handle)) := by
  rw [submit_eq, submitClassified_eq hid]
  exact bind_assoc _ _ _

theorem afterCreate_asksOnly (answer : Except RemoteFault JobHandle) :
    (afterCreate project job answer).AsksOnly (LooksUnder project job.reference) := by
  cases answer with
  | ok handle => exact accept_asksOnly handle
  | error cause => exact afterError_asksOnly cause

theorem submit_ends_iff {result : Except Fault JobHandle} :
    (submit project job).Ends ts result ↔ ∃ classified,
      (submitClassified project job).Ends ts classified ∧
        result = classified.map SubmitOutcome.handle := by
  rw [submit_eq, bind_eq, ends_bind_iff]
  constructor
  · rintro ⟨us, classified, vs, rfl, hclassified, hresult⟩
    obtain ⟨rfl, rfl⟩ := ends_done_iff.mp hresult
    exact ⟨classified, by rwa [List.append_nil], rfl⟩
  · rintro ⟨classified, hclassified, rfl⟩
    exact ⟨ts, classified, [], (List.append_nil ts).symm, hclassified,
      ends_done_iff.mpr ⟨rfl, rfl⟩⟩

/-- What a submission, and nothing else, can come to: it gives the job that was asked for, or it
fails in a way of its own. -/
def Submitted (job : JobDescription) : Except Fault JobHandle → Prop
  | .ok handle => job.reference.sameJob handle.reference = true
  | .error (.remote fault) => fault.stage = .submission
  | .error (.identity _ _) => True
  | .error _ => False

theorem submitted_looked (answer : Except RemoteFault JobHandle) :
    Submitted job (looked .submission job.reference answer) := by
  cases answer with
  | error cause => rfl
  | ok handle =>
    cases hsame : job.reference.sameJob handle.reference with
    | true =>
      rw [looked_of_same hsame]
      exact hsame
    | false =>
      rw [looked_of_other hsame]
      trivial

theorem afterCreate_yields (answer : Except RemoteFault JobHandle) :
    (afterCreate project job answer).Yields fun classified =>
      Submitted job (classified.map SubmitOutcome.handle) := by
  cases answer with
  | ok handle =>
    show Yields _ (accept project job handle)
    cases hsame : job.reference.sameJob handle.reference with
    | true =>
      simp only [accept, checkIdentity_of_same hsame]
      exact fun _ => hsame
    | false =>
      simp only [accept, checkIdentity_of_other hsame]
      trivial
  | error cause =>
    show Yields _ (afterError project job cause)
    unfold afterError
    split
    · rw [lookUp_eq]
      intro _ answer
      have h : Submitted job (looked .submission job.reference answer) :=
        submitted_looked answer
      show Submitted job (((looked .submission job.reference answer).map _).map _)
      cases hlooked : looked .submission job.reference answer with
      | ok handle => rwa [hlooked] at h
      | error fault => rwa [hlooked] at h
    · exact fun _ => rfl

theorem submit_yields (hid : job.reference.id.text.isEmpty = false) :
    (submit project job).Yields (Submitted job) := by
  rw [submit_creates hid]
  exact fun answer => (afterCreate_yields answer).bind fun _ h => h

/-- A submission that has ended has asked for one create, and has told nobody of a look. -/
theorem submit_creates_once (hid : job.reference.id.text.isEmpty = false)
    {result : Except Fault JobHandle} (h : (submit project job).Ends ts result) :
    creates ts = [(project, job)] ∧ ticks ts = 0 := by
  obtain ⟨classified, hclassified, rfl⟩ := submit_ends_iff.mp h
  cases course_of_ends hid hclassified <;> exact ⟨rfl, rfl⟩

end Submission

/-! ## Waits -/

section

variable {job reference : JobReference} {project : ProjectId} {polling : PollingSettings}

theorem logAll_asksOnly (events : List LogEvent) :
    (Waiting.logAll events).AsksOnly (LooksUnder project reference) :=
  (logAll_concludes events).asksOnly fun _ => trivial

theorem sleepOrCancel_asksOnly {K : WorkRequest → Prop} (hK : ∀ r, K (.locally r)) (rounds : Nat)
    (deadline : Nanos) :
    AsksOnly (S := WorkSignature) K (Waiting.sleepOrCancel rounds deadline) := by
  induction rounds with
  | zero => trivial
  | succ rounds ih =>
    refine ⟨hK _, fun woken => ?_⟩
    cases woken with
    | deadline => trivial
    | gone => exact ⟨hK _, fun _ => trivial⟩
    | change =>
      refine ⟨hK _, fun cancelled => ?_⟩
      cases cancelled with
      | true => trivial
      | false => exact ih

theorem fetchStatus_asksOnly :
    (Waiting.fetchStatus project reference).AsksOnly (LooksUnder project reference) := by
  rw [Waiting.fetchStatus_eq]
  exact ⟨⟨rfl, rfl, rfl⟩, fun _ => trivial⟩

theorem awaitFrom_asksOnly (watcher : Watcher) (rounds : Nat) (interval : Nanos)
    (errors : UInt32) (attempt : Nat) :
    (Waiting.awaitFrom polling project reference watcher.onTick rounds interval errors
      attempt).AsksOnly (LooksUnder project reference) := by
  induction rounds generalizing interval errors attempt with
  | zero => trivial
  | succ rounds ih =>
    refine ⟨trivial, fun cancelled => ?_⟩
    cases cancelled with
    | true => exact ⟨trivial, fun _ => trivial⟩
    | false =>
      refine fetchStatus_asksOnly.bind fun fetched => ?_
      refine ((watcher.aloof _).asksOnly fun _ => trivial).bind fun _ => ?_
      refine (logAll_asksOnly _).bind fun _ => ?_
      cases Waiting.judge polling.maxTransientErrors errors fetched with
      | decided result => trivial
      | again errors =>
        refine ⟨trivial, fun now => ?_⟩
        refine (sleepOrCancel_asksOnly (fun _ => trivial) _ _).bind fun cancelled => ?_
        cases cancelled with
        | true => exact ⟨trivial, fun _ => trivial⟩
        | false => exact ih _ _ _

/-- A fault of somebody who looks at a job: the look failed, or it showed another job. -/
def Unseen : Fault → Prop
  | .remote fault => fault.stage = .polling
  | .identity _ _ => True
  | _ => False

/-- A look that does not show the job at its end. -/
def Unended : Except Fault JobHandle → Prop
  | .ok handle => handle.isTerminal = false
  | .error fault => Unseen fault

theorem fetchStatus_heeds (hsame : job.sameJob reference = true) :
    Heeds job (fun handle fetched => fetched = .ok handle ∧ handle.isTerminal = true) Unended
      (Waiting.fetchStatus project reference) := by
  rw [Waiting.fetchStatus_eq]
  intro answer
  constructor
  · intro handle hended
    obtain ⟨hlook, hown, hterminal⟩ := Turn.ended?_eq_some_iff.mp hended
    cases hlook
    rw [← JobReference.sameJob_congr hsame] at hown
    exact ⟨looked_of_same hown, hterminal⟩
  · intro hnone
    show Unended (looked .polling reference answer)
    cases answer with
    | error cause => rfl
    | ok handle =>
      cases hown : reference.sameJob handle.reference with
      | false =>
        rw [looked_of_other hown]
        trivial
      | true =>
        rw [looked_of_same hown]
        refine eq_false_of_ne_true fun hterminal => ?_
        rw [JobReference.sameJob_congr hsame] at hown
        rw [Turn.ended?_eq_some_iff.mpr ⟨rfl, hown, hterminal⟩] at hnone
        cases hnone

theorem sleepOrCancel_heeds (rounds : Nat) (deadline : Nanos) :
    Heeds job (fun _ _ => False) (fun _ => True) (Waiting.sleepOrCancel rounds deadline) := by
  induction rounds with
  | zero => trivial
  | succ rounds ih =>
    refine heeds_locally fun woken => ?_
    cases woken with
    | deadline => trivial
    | gone => exact heeds_locally fun _ => trivial
    | change =>
      refine heeds_locally fun cancelled => ?_
      split
      · trivial
      · exact ih

/-- A wait that did not see the end of its job. -/
def GaveUp : Except Fault WaitOutcome → Prop
  | .ok (.completed _) => False
  | .ok .cancelled => True
  | .error fault => Unseen fault

theorem judge_gaveUp {limit errors : UInt32} {fetched : Except Fault JobHandle}
    {result : Except Fault WaitOutcome} (h : Unended fetched)
    (hjudge : Waiting.judge limit errors fetched = .decided result) : GaveUp result := by
  unfold Waiting.judge at hjudge
  split at hjudge
  · split at hjudge
    · rename_i hterminal
      rw [h] at hterminal
      cases hterminal
    · cases hjudge
  · split at hjudge
    · cases hjudge
      exact h
    · split at hjudge
      · cases hjudge
        rfl
      · cases hjudge

/-- A wait ends with the first look that shows its job at the end. -/
theorem awaitFrom_heeds (hsame : job.sameJob reference = true) (watcher : Watcher) (rounds : Nat)
    (interval : Nanos) (errors : UInt32) (attempt : Nat) :
    Heeds job (fun handle result => result = .ok (.completed handle)) GaveUp
      (Waiting.awaitFrom polling project reference watcher.onTick rounds interval errors
        attempt) := by
  induction rounds generalizing interval errors attempt with
  | zero => trivial
  | succ rounds ih =>
    rw [Waiting.awaitFrom]
    refine heeds_locally fun cancelled => ?_
    split
    · exact heeds_locally fun _ => trivial
    · refine (fetchStatus_heeds hsame).bind ?_ fun fetched hfetched => ?_
      · rintro handle _ ⟨rfl, hterminal⟩
        refine (watcher.aloof _).bind fun _ _ => (logAll_concludes _).bind fun _ _ => ?_
        simp only [Waiting.judge, hterminal, if_true]
        rfl
      · refine (watcher.aloof _).heeds_bind fun _ => (logAll_concludes _).heeds_bind fun _ => ?_
        cases hjudge : Waiting.judge polling.maxTransientErrors errors fetched with
        | decided result => exact judge_gaveUp hfetched hjudge
        | again errors =>
          refine heeds_locally fun now => ?_
          refine (sleepOrCancel_heeds _ _).bind (fun _ _ h => h.elim) fun cancelled _ => ?_
          split
          · exact heeds_locally fun _ => trivial
          · exact ih _ _ _

end

end WarehouseJobs
