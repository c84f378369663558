-- Whatever the service answers, nothing is reported about another job than the one asked for.
-- The reference that an answer is held against is handed on from the submission to the wait;
-- at each of these steps it names the same project and id.
import WarehouseJobs.Export.Run
import WarehouseJobs.Proofs.Programs.Minding
import WarehouseJobs.Proofs.Submission.Courses

namespace WarehouseJobs

open Program

/-! ## What answers tell -/

/-- One of the answers has this handle, and it is of the job. -/
structure Answered (job : JobReference) (ts : List (Turn WorkSignature)) (handle : JobHandle) :
    Prop where
  given : ∃ t ∈ ts, t.handle? = some handle
  own : job.sameJob handle.reference = true

/-- A look at the job was answered with this handle, and it is of the job. -/
structure Fetched (job : JobReference) (ts : List (Turn WorkSignature)) (handle : JobHandle) :
    Prop where
  given : ∃ t ∈ ts, Submission.isGet t = true ∧ t.handle? = some handle
  own : job.sameJob handle.reference = true

/-- A fault that says nothing about what became of a job. -/
def Fault.Mute : Fault → Prop
  | .argument _ => True
  | .remote fault => fault.stage ≠ .execution
  | _ => False

/-- A good result, or a fault that says nothing about what became of a job. -/
def Fair {α : Type} (Good : α → Prop) : Except Fault α → Prop
  | .ok a => Good a
  | .error fault => fault.Mute

variable {job : JobReference} {ts vs : List (Turn WorkSignature)} {handle : JobHandle}

theorem Answered.append (h : Answered job ts handle) : Answered job (ts ++ vs) handle := by
  obtain ⟨⟨t, ht, hhandle⟩, hown⟩ := h
  exact ⟨⟨t, List.mem_append_left _ ht, hhandle⟩, hown⟩

theorem Fetched.append (h : Fetched job ts handle) : Fetched job (ts ++ vs) handle := by
  obtain ⟨⟨t, ht, hhandle⟩, hown⟩ := h
  exact ⟨⟨t, List.mem_append_left _ ht, hhandle⟩, hown⟩

theorem Fetched.answered (h : Fetched job ts handle) : Answered job ts handle := by
  obtain ⟨⟨t, ht, -, hhandle⟩, hown⟩ := h
  exact ⟨⟨t, ht, hhandle⟩, hown⟩

theorem Fair.mono {α : Type} {P Q : α → Prop} {result : Except Fault α} (h : Fair P result)
    (hPQ : ∀ a, P a → Q a) : Fair Q result := by
  cases result with
  | ok a => exact hPQ a h
  | error fault => exact h

/-- The fault of a program that was answered about another job. -/
def Mismatch {α : Type} (expected actual : JobReference) (result : Except Fault α) : Prop :=
  result = .error (.identity expected actual)

/-! ## Looks and submissions -/

section

variable {reference : JobReference} {project : ProjectId} {polling : PollingSettings}
  {α : Type} {Fail : JobReference → α → Prop} {Q : List (Turn WorkSignature) → α → Prop}

theorem JobReference.sameJob_congr {a b : JobReference} (h : a.sameJob b = true)
    (c : JobReference) : b.sameJob c = a.sameJob c := by
  obtain ⟨hproject, hid⟩ := sameJob_iff.mp h
  rw [sameJob, sameJob, hproject, hid]

/-- A look under a reference to the job. -/
theorem minds_look (stage : Stage) (hsame : job.sameJob reference = true)
    (hstage : stage ≠ .execution) {id : JobId} {location : Option String}
    {f : Except Fault JobHandle → Work α}
    (hfail : ∀ actual, (f (.error (.identity reference actual))).Concludes (Fail actual))
    (hf : ∀ ts fetched, Fair (Fetched job ts) fetched → Minds job Fail Q ts (f fetched)) :
    Minds job Fail Q ts (do
      let answer ← Work.get project id location
      f (looked stage reference answer)) := by
  intro answer
  cases answer with
  | error cause =>
    refine ⟨fun _ => hf _ _ hstage, ?_⟩
    rintro _ ⟨⟩
  | ok handle =>
    refine ⟨fun hown => ?_, ?_⟩
    · have hlooked : reference.sameJob handle.reference = true := by
        rw [JobReference.sameJob_congr hsame]
        exact hown handle rfl
      refine hf _ _ ?_
      rw [looked_of_same hlooked]
      exact ⟨⟨_, List.mem_append_right _ List.mem_cons_self, rfl, rfl⟩, hown handle rfl⟩
    · rintro _ ⟨⟩ hother
      rw [← JobReference.sameJob_congr hsame] at hother
      show (f (looked stage reference (.ok handle))).Concludes _
      rw [looked_of_other hother]
      exact hfail _

theorem fetchStatus_minds (hsame : job.sameJob reference = true) :
    Minds job (Mismatch reference) (fun ts fetched => Fair (Fetched job ts) fetched) ts
      (Waiting.fetchStatus project reference) := by
  rw [Waiting.fetchStatus_eq]
  exact minds_look .polling (f := pure) hsame (by decide) (fun _ => rfl) fun _ _ h => h

/-- What a submission may end with, if no answer was about another job. -/
def SubmittedFairly (job : JobReference) (ts : List (Turn WorkSignature)) :
    Except Fault SubmitOutcome → Prop :=
  Fair fun outcome => Answered job ts outcome.handle

open Submission in
theorem lookUp_minds {description : JobDescription} :
    Minds description.reference (Mismatch description.reference)
      (SubmittedFairly description.reference) ts (lookUp project description) := by
  rw [lookUp_eq]
  refine minds_locally fun _ => ?_
  refine minds_look .submission (f := fun fetched => pure (fetched.map _))
    (JobReference.sameJob_refl _) (by decide) (fun _ => ?_) fun ts fetched h => ?_
  · rfl
  cases fetched with
  | error fault => exact h
  | ok handle => exact Fetched.answered h

open Submission in
theorem submitClassified_minds {description : JobDescription} :
    Minds description.reference (Mismatch description.reference)
      (SubmittedFairly description.reference) ts
      (submitClassified project description) := by
  cases hid : description.reference.id.text.isEmpty with
  | true =>
    unfold submitClassified
    rw [if_pos hid]
    trivial
  | false =>
    rw [submitClassified_eq hid]
    intro answer
    cases answer with
    | error cause =>
      refine ⟨fun _ => ?_, ?_⟩
      · show Minds _ _ _ _ (afterError project description cause)
        unfold afterError
        split
        · exact lookUp_minds
        · refine minds_locally fun _ => ?_
          show Stage.submission ≠ Stage.execution
          decide
      · rintro _ ⟨⟩
    | ok handle =>
      refine ⟨fun hown => ?_, ?_⟩
      · show Minds _ _ _ _ (accept project description handle)
        simp only [accept, checkIdentity_of_same (hown handle rfl)]
        refine minds_locally fun _ => ?_
        exact Answered.append
          ⟨⟨_, List.mem_append_right _ List.mem_cons_self, rfl⟩, hown handle rfl⟩
      · rintro _ ⟨⟩ hother
        show (accept project description handle).Concludes _
        simp only [accept, checkIdentity_of_other hother]
        rfl

theorem submit_minds (project : ProjectId) (description : JobDescription)
    (ts : List (Turn WorkSignature)) :
    Minds description.reference (Mismatch description.reference)
      (fun ts => Fair (Answered description.reference ts)) ts
      (Submission.submit project description) := by
  refine submitClassified_minds.bind ?_ ?_
  · rintro actual _ rfl
    rfl
  · intro ts result h
    cases result <;> exact h

/-! ## Waits -/

/-- Somebody who is told of each look, and keeps away from the service. -/
structure Watcher where
  onTick : Nat → Work Unit
  aloof : ∀ count, (onTick count).Concludes fun _ => True

theorem logAll_concludes (events : List LogEvent) :
    (Waiting.logAll events).Concludes fun _ => True := by
  induction events with
  | nil => trivial
  | cons event events ih => exact ⟨rfl, fun _ => ih⟩

theorem sleepOrCancel_minds (rounds : Nat) (deadline : Nanos) :
    Minds job (fun _ _ => False) (fun _ _ => True) ts (Waiting.sleepOrCancel rounds deadline) := by
  induction rounds generalizing ts with
  | zero => trivial
  | succ rounds ih =>
    refine minds_locally fun woken => ?_
    cases woken with
    | deadline => trivial
    | gone => exact minds_locally fun _ => trivial
    | change =>
      refine minds_locally fun cancelled => ?_
      split
      · trivial
      · exact ih

/-- What a wait may end with, if no answer was about another job. -/
def WaitedFairly (job : JobReference) (ts : List (Turn WorkSignature)) :
    Except Fault WaitOutcome → Prop :=
  Fair fun outcome => ∀ handle, outcome = .completed handle → Fetched job ts handle

theorem waitedFairly_cancelled : WaitedFairly job ts (.ok .cancelled) := by
  rintro _ ⟨⟩

theorem judge_fair {limit errors : UInt32} {fetched : Except Fault JobHandle}
    {result : Except Fault WaitOutcome} (h : Fair (Fetched job ts) fetched)
    (hjudge : Waiting.judge limit errors fetched = .decided result) : WaitedFairly job ts result := by
  unfold Waiting.judge at hjudge
  split at hjudge
  · split at hjudge
    · cases hjudge
      rintro _ ⟨⟩
      exact h
    · cases hjudge
  · split at hjudge
    · cases hjudge
      exact h
    · split at hjudge
      · cases hjudge
        show Stage.polling ≠ Stage.execution
        decide
      · cases hjudge

theorem awaitFrom_minds (hsame : job.sameJob reference = true) (watcher : Watcher) (rounds : Nat)
    (interval : Nanos) (errors : UInt32) (attempt : Nat) :
    Minds job (Mismatch reference) (WaitedFairly job) ts
      (Waiting.awaitFrom polling project reference watcher.onTick rounds interval errors attempt) := by
  induction rounds generalizing ts interval errors attempt with
  | zero => trivial
  | succ rounds ih =>
    rw [Waiting.awaitFrom]
    refine minds_locally fun cancelled => ?_
    split
    · exact minds_locally fun _ => waitedFairly_cancelled
    · refine (fetchStatus_minds hsame).bind ?_ fun ts fetched hfetched => ?_
      · rintro actual _ rfl
        refine (watcher.aloof _).bind fun _ _ => (logAll_concludes _).bind fun _ _ => ?_
        rfl
      · refine (watcher.aloof _).minds_bind fun us _ => ?_
        refine (logAll_concludes _).minds_bind fun vs _ => ?_
        cases hjudge : Waiting.judge polling.maxTransientErrors errors fetched with
        | decided result => exact judge_fair (hfetched.mono fun _ h => h.append.append) hjudge
        | again errors =>
          refine minds_locally fun now => ?_
          refine (sleepOrCancel_minds _ _).bind (fun _ _ h => h.elim) fun ts cancelled _ => ?_
          split
          · exact minds_locally fun _ => waitedFairly_cancelled
          · exact ih _ _ _

/-! ## Exports -/

/-- What a call may end with, if no answer was about another job than the one it asked for. A
call that gives no handle was called off. -/
def Reported (job : JobReference) (ts : List (Turn WorkSignature)) :
    Except Fault (Option JobHandle) → Prop
  | .ok (some handle) => Answered job ts handle
  | .ok none => True
  | .error (.argument _) => True
  | .error (.cancelled id) => id = job.id.text
  | .error (.remote fault) => fault.stage = .execution → ∃ handle, Fetched job ts handle ∧
      handle.state = .failed ∧ fault = Exporter.executionFault handle
  | .error _ => False

theorem reported_of_mute {fault : Fault} (h : fault.Mute) : Reported job ts (.error fault) := by
  cases fault with
  | argument cause => trivial
  | remote fault => exact fun hstage => absurd hstage h
  | _ => exact h.elim

theorem Fair.reported {result : Except Fault α} {give : α → Option JobHandle}
    (h : Fair (fun a => ∀ handle, give a = some handle → Answered job ts handle) result) :
    Reported job ts (result.map give) := by
  cases result with
  | error fault => exact reported_of_mute h
  | ok a =>
    show Reported job ts (.ok (give a))
    cases hgive : give a with
    | none => trivial
    | some handle => exact h handle hgive

theorem Exporter.await_minds (e : Exporter) (hsame : job.sameJob handle.reference = true)
    (watcher : Watcher) (rounds : Nat) (started : Nanos) :
    Minds job (Mismatch handle.reference) (fun ts result => Reported job ts (result.map some)) ts
      (e.await rounds project started handle watcher.onTick) := by
  unfold await
  refine (awaitFrom_minds hsame watcher _ _ _ _).bind ?_ fun ts waited hwaited => ?_
  · rintro actual _ rfl
    rfl
  · cases waited with
    | error fault => exact reported_of_mute hwaited
    | ok outcome =>
      cases outcome with
      | cancelled => exact congrArg JobId.text (JobReference.sameJob_iff.mp hsame).2.symm
      | completed finished =>
        have hfetched := hwaited finished rfl
        refine minds_locally fun now => minds_locally fun _ => ?_
        split
        · rename_i hfailed
          exact fun _ => ⟨finished, hfetched.append.append, hfailed, rfl⟩
        · exact hfetched.answered.append.append

/-- The reference of a new job, as an exporter asks for it. -/
def Exporter.asked (e : Exporter) (project : ProjectId) (u : Uuid) : JobReference :=
  { project, id := ⟨newId e.idPrefix u⟩, location := e.location }

theorem IdRules.checkPrefix_cases (rules : IdRules) (text idPrefix : String) :
    (∃ cause, rules.checkPrefix text idPrefix = .error (.argument cause)) ∨
      rules.checkPrefix text idPrefix = .ok ⟨text⟩ := by
  unfold checkPrefix ProjectId.ofText
  by_cases hblank : Text.isBlank text = true
  · rw [if_pos hblank]
    exact .inl ⟨_, rfl⟩
  · rw [if_neg hblank]
    simp only
    split
    · exact .inl ⟨_, rfl⟩
    · split
      · exact .inl ⟨_, rfl⟩
      · exact .inr rfl

/-- A new reference names the project and the id drawn, or the arguments are refused. -/
theorem IdRules.generate_cases (rules : IdRules) (text idPrefix : String) (u : Uuid) :
    (∃ cause, rules.generate text idPrefix u = .error (.argument cause)) ∨
      rules.generate text idPrefix u = .ok { project := ⟨text⟩, id := ⟨newId idPrefix u⟩ } := by
  unfold generate
  rcases rules.checkPrefix_cases text idPrefix with ⟨cause, hlead⟩ | hlead
  · rw [hlead]
    exact .inl ⟨cause, rfl⟩
  · rw [hlead]
    simp only
    split
    · exact .inl ⟨_, rfl⟩
    · split
      · exact .inl ⟨_, rfl⟩
      · exact .inr rfl

theorem Exporter.description_reference (e : Exporter) (u : Uuid) (source : TableReference)
    (destinations : List Destination) :
    (e.description { project, id := ⟨newId e.idPrefix u⟩ } source destinations).reference =
      e.asked project u := by
  unfold description asked
  cases e.location <;> rfl

/-- The fault of an export that was answered about another job. The service may have named the
place of the job meanwhile, so the reference that it names is the one asked for but for that. -/
def Exporter.Fails (job actual : JobReference) (result : Except Fault JobHandle) : Prop :=
  ∃ expected, job.sameJob expected = true ∧ Mismatch expected actual result

/-- An export once it has submitted its job. -/
theorem Exporter.rest_minds (e : Exporter) (watcher : Watcher) (rounds : Nat) (started : Nanos)
    (description : JobDescription) (wait : Bool) (hanswered : Answered job ts handle) :
    Minds job (Exporter.Fails job) (fun ts result => Reported job ts (result.map some)) ts (do
      Work.log (submittedEvent project handle description.task)
      if wait then e.await rounds project started handle watcher.onTick
      else pure (.ok handle)) := by
  refine minds_locally fun _ => ?_
  split
  · exact (e.await_minds hanswered.own watcher rounds started).mono
      fun _ _ h => ⟨_, hanswered.own, h⟩
  · exact hanswered.append

theorem Exporter.run_minds (e : Exporter) (watcher : Watcher) (rounds : Nat)
    (source : TableReference) (destinations : List Destination) (wait : Bool) :
    (∃ cause, e.run rounds project source destinations wait watcher.onTick =
      .done (.error (.argument cause))) ∨
    ∃ next, e.run rounds project source destinations wait watcher.onTick =
        .ask (S := WorkSignature) (.locally .draw) next ∧
      ∀ u ts, Minds (e.asked project u) (Exporter.Fails (e.asked project u))
        (fun ts result => Reported (e.asked project u) ts (result.map some)) ts (next u) := by
  unfold run
  split
  · exact .inl ⟨_, rfl⟩
  · refine .inr ⟨_, rfl, fun u ts => ?_⟩
    rcases e.rules.generate_cases project.text e.idPrefix u with ⟨cause, hgen⟩ | hgen
    · simp only [Program.bind, hgen]
      trivial
    · simp only [Program.bind, hgen]
      refine minds_locally fun started => ?_
      have hsubmit := submit_minds project
        (e.description { project, id := ⟨newId e.idPrefix u⟩ } source destinations)
      rw [e.description_reference] at hsubmit
      refine (hsubmit _).bind ?_ fun ts submitted hsubmitted => ?_
      · rintro actual _ rfl
        exact ⟨_, JobReference.sameJob_refl _, rfl⟩
      · cases submitted with
        | error fault => exact reported_of_mute hsubmitted
        | ok handle => exact e.rest_minds watcher rounds started _ wait hsubmitted

end

/-! ## All calls -/

/-- The calls that give handles of jobs. -/
inductive JobCall where
  | submit (project : ProjectId) (description : JobDescription)
  | submitClassified (project : ProjectId) (description : JobDescription)
  | fetchStatus (project : ProjectId) (reference : JobReference)
  | awaitCompletion (polling : PollingSettings) (rounds : Nat) (project : ProjectId)
      (handle : JobHandle) (watcher : Watcher)
  | exportTable (e : Exporter) (rounds : Nat) (project : ProjectId) (source : TableReference)
      (destinations : List Destination) (wait : Bool) (watcher : Watcher)

namespace JobCall

/-- The handle of a wait that was not called off. -/
def ended? : WaitOutcome → Option JobHandle
  | .completed handle => some handle
  | .cancelled => none

/-- The call as a program. It gives no handle if it was called off. -/
def program : JobCall → Work (Except Fault (Option JobHandle))
  | submit project description => do
    let result ← Submission.submit project description
    pure (result.map some)
  | submitClassified project description => do
    let result ← Submission.submitClassified project description
    pure (result.map fun outcome => some outcome.handle)
  | fetchStatus project reference => do
    let result ← Waiting.fetchStatus project reference
    pure (result.map some)
  | awaitCompletion polling rounds project handle watcher => do
    let result ← Waiting.awaitCompletion polling rounds project handle watcher.onTick
    pure (result.map ended?)
  | exportTable e rounds project source destinations wait watcher => do
    let result ← e.run rounds project source destinations wait watcher.onTick
    pure (result.map some)

/-- The job that a call with these turns asks for. An export asks for a job of the id that it
draws first of all. -/
def Wants : JobCall → List (Turn WorkSignature) → JobReference → Prop
  | submit _ description, _, job => job = description.reference
  | submitClassified _ description, _, job => job = description.reference
  | fetchStatus _ reference, _, job => job = reference
  | awaitCompletion _ _ _ handle _, _, job => job = handle.reference
  | exportTable e _ project _ _ _ _, ts, job =>
    ∃ u rest, ts = ⟨.locally .draw, u⟩ :: rest ∧ job = e.asked project u

/-- The reference that a call for a job holds answers against. An export waits for its job under
the reference that the service gave it, which may say more about the place. -/
def Expects : JobCall → JobReference → JobReference → Prop
  | exportTable .., job, expected => job.sameJob expected = true
  | _, job, expected => expected = job

/-- The result of a call for a job that was answered about another one. -/
def Fails (c : JobCall) (job actual : JobReference) (result : Except Fault (Option JobHandle)) :
    Prop :=
  ∃ expected, c.Expects job expected ∧ Mismatch expected actual result

variable {c : JobCall} {ts : List (Turn WorkSignature)} {job : JobReference}
  {q : Work (Except Fault (Option JobHandle))}

theorem minds_give {α : Type} {Good : List (Turn WorkSignature) → α → Prop}
    {p : Work (Except Fault α)} {give : α → Option JobHandle}
    (hp : Minds job (Mismatch job) (fun ts => Fair (Good ts)) ts p)
    (hgood : ∀ ts a, Good ts a → ∀ handle, give a = some handle → Answered job ts handle) :
    Minds job (Mismatch job) (Reported job) ts (do
      let result ← p
      pure (result.map give)) := by
  refine hp.bind ?_ fun ts result h => (h.mono (hgood ts)).reported
  rintro actual _ rfl
  rfl

/-- Where the turns of a call have led to. Before an export has drawn its id, nothing was asked
of the service; later on, either all answers were about the job asked for, or one was about
another job and the call is done with the service. -/
def Stands (c : JobCall) (ts : List (Turn WorkSignature))
    (q : Work (Except Fault (Option JobHandle))) : Prop :=
  (ts = [] ∧ ∀ result, q = .done result → ∃ cause, result = .error (.argument cause)) ∨
  ∃ job, c.Wants ts job ∧
    ((∀ t ∈ ts, Turn.Own job t) ∧ Minds job (c.Fails job) (Reported job) ts q ∨
      ∃ actual, Strayed job ts actual ∧ q.Concludes (c.Fails job actual))

theorem stands_of_minds (hwants : ∀ ts, c.Wants ts job) (hexpects : c.Expects job job)
    (h : Minds job (Mismatch job) (Reported job) [] c.program) (hgoes : c.program.Goes ts q) :
    c.Stands ts q :=
  .inr ⟨job, hwants ts, (h.mono fun _ _ hfail => ⟨job, hexpects, hfail⟩).goes hgoes⟩

theorem stands (hgoes : c.program.Goes ts q) : c.Stands ts q := by
  cases c with
  | submit project description =>
    refine stands_of_minds (fun _ => rfl) rfl ?_ hgoes
    refine minds_give (submit_minds project description []) ?_
    rintro ts handle h _ ⟨⟩
    exact h
  | submitClassified project description =>
    refine stands_of_minds (fun _ => rfl) rfl ?_ hgoes
    refine minds_give submitClassified_minds ?_
    rintro ts outcome h _ ⟨⟩
    exact h
  | fetchStatus project reference =>
    refine stands_of_minds (fun _ => rfl) rfl ?_ hgoes
    refine minds_give (fetchStatus_minds (JobReference.sameJob_refl _)) ?_
    rintro ts handle h _ ⟨⟩
    exact h.answered
  | awaitCompletion polling rounds project handle watcher =>
    refine stands_of_minds (fun _ => rfl) rfl ?_ hgoes
    refine minds_give (awaitFrom_minds (JobReference.sameJob_refl _) watcher _ _ _ _) ?_
    intro ts outcome h handle hended
    cases outcome with
    | cancelled => cases hended
    | completed finished =>
      cases hended
      exact (h _ rfl).answered
  | exportTable e rounds project source destinations wait watcher =>
    have hrun : (exportTable e rounds project source destinations wait watcher).program =
        Program.bind (e.run rounds project source destinations wait watcher.onTick)
          fun result => pure (result.map some) := rfl
    rcases e.run_minds watcher rounds source destinations wait with ⟨cause, heq⟩ | ⟨next, heq, hnext⟩
    · rw [hrun, heq] at hgoes
      cases hgoes
      refine .inl ⟨rfl, ?_⟩
      rintro _ ⟨⟩
      exact ⟨cause, rfl⟩
    · rw [hrun, heq] at hgoes
      cases hgoes with
      | here =>
        refine .inl ⟨rfl, ?_⟩
        rintro _ ⟨⟩
      | @turn _ _ u ts _ hgoes =>
        have hminds : Minds (e.asked project u)
            (Fails (exportTable e rounds project source destinations wait watcher)
              (e.asked project u))
            (Reported (e.asked project u)) [⟨.locally .draw, u⟩] (do
              let result ← next u
              pure (result.map some)) := by
          refine (hnext u _).bind ?_ fun ts result h => h
          rintro actual _ ⟨expected, hsame, rfl⟩
          exact ⟨expected, hsame, rfl⟩
        refine .inr ⟨e.asked project u, ⟨u, ts, rfl, rfl⟩, ?_⟩
        have hdraw : Turn.Own (e.asked project u) ⟨.locally .draw, u⟩ :=
          Turn.own_of_isLocal _ rfl
        rcases hminds.goes hgoes with ⟨hown, hq⟩ | ⟨actual, hstrayed, hq⟩
        · exact .inl ⟨List.forall_mem_cons.mpr ⟨hdraw, hown⟩, hq⟩
        · exact .inr ⟨actual, hstrayed.cons hdraw, hq⟩

/-- A call that has ended has ended fairly, or with a mismatch. -/
theorem ended_cases {result : Except Fault (Option JobHandle)} (h : c.program.Ends ts result) :
    (∃ cause, result = .error (.argument cause)) ∨
    ∃ job, c.Wants ts job ∧ (Reported job ts result ∨
      ∃ actual, Strayed job ts actual ∧ c.Fails job actual result) := by
  rcases stands h with ⟨rfl, hdone⟩ | ⟨job, hwants, ⟨-, hq⟩ | ⟨actual, hstrayed, hq⟩⟩
  · exact .inl (hdone result rfl)
  · exact .inr ⟨job, hwants, .inl hq⟩
  · exact .inr ⟨job, hwants, .inr ⟨actual, hstrayed, hq⟩⟩

theorem Expects.same {expected : JobReference} (h : c.Expects job expected) :
    job.sameJob expected = true := by
  cases c with
  | exportTable => exact h
  | _ =>
    cases h
    exact JobReference.sameJob_refl _

/-- An answer with a handle is about the job asked for, or the call is done with the service and
ends with a mismatch. -/
theorem fails_after_foreign_answer {t : Turn WorkSignature} {handle : JobHandle}
    (h : c.program.Goes (ts ++ [t]) q) (hhandle : t.handle? = some handle) :
    ∃ job, c.Wants (ts ++ [t]) job ∧ (job.sameJob handle.reference = false →
      q.Concludes (c.Fails job handle.reference)) := by
  rcases stands h with ⟨hnil, -⟩ | ⟨job, hwants, ⟨hown, -⟩ | ⟨actual, hstrayed, hq⟩⟩
  · simp at hnil
  · refine ⟨job, hwants, fun hother => ?_⟩
    have hsame := hown t (List.mem_append_right _ List.mem_cons_self) handle hhandle
    rw [hother] at hsame
    cases hsame
  · refine ⟨job, hwants, fun _ => ?_⟩
    rw [hstrayed.eq_last hhandle]
    exact hq

end JobCall

open JobCall in
/-- Nothing is reported about another job, whatever the service answers and however a job is
submitted, looked at, waited for or exported. A handle that a call gives, the id of a job whose
wait was called off, and the handle behind a fault of the job itself are all of the job that
was asked for. An answer about another project or id ends the call: it asks the service for
nothing more, and ends with a mismatch that names the job asked for and the one answered for.
No other answer ends it so, wherever the job is said to be. -/
theorem nothing_is_reported_about_another_job (c : JobCall) :
    (∀ ts handle, c.program.Ends ts (.ok (some handle)) →
      ∃ job, c.Wants ts job ∧ Answered job ts handle) ∧
    (∀ ts id, c.program.Ends ts (.error (.cancelled id)) →
      ∃ job, c.Wants ts job ∧ id = job.id.text) ∧
    (∀ ts fault, c.program.Ends ts (.error (.remote fault)) → fault.stage = .execution →
      ∃ job handle, c.Wants ts job ∧ Fetched job ts handle ∧ handle.state = .failed ∧
        fault = Exporter.executionFault handle) ∧
    (∀ ts t q handle, c.program.Goes (ts ++ [t]) q → t.handle? = some handle →
      ∃ job, c.Wants (ts ++ [t]) job ∧ (job.sameJob handle.reference = false →
        q.Concludes fun result => ∃ expected, c.Expects job expected ∧
          result = .error (.identity expected handle.reference))) ∧
    (∀ ts expected actual, c.program.Ends ts (.error (.identity expected actual)) →
      ∃ job, c.Wants ts job ∧ job.sameJob expected = true ∧ Strayed job ts actual) := by
  refine ⟨fun ts handle h => ?_, fun ts id h => ?_, fun ts fault h hstage => ?_,
    fun ts t q handle h => fails_after_foreign_answer h, fun ts expected actual h => ?_⟩
  · rcases ended_cases h with ⟨_, ⟨⟩⟩ | ⟨job, hwants, hreported | ⟨_, -, _, -, ⟨⟩⟩⟩
    exact ⟨job, hwants, hreported⟩
  · rcases ended_cases h with ⟨_, ⟨⟩⟩ | ⟨job, hwants, hreported | ⟨_, -, _, -, ⟨⟩⟩⟩
    exact ⟨job, hwants, hreported⟩
  · rcases ended_cases h with ⟨_, ⟨⟩⟩ | ⟨job, hwants, hreported | ⟨_, -, _, -, ⟨⟩⟩⟩
    obtain ⟨handle, hfetched, hfailed, hfault⟩ := hreported hstage
    exact ⟨job, handle, hwants, hfetched, hfailed, hfault⟩
  · rcases ended_cases h with ⟨_, ⟨⟩⟩ | ⟨job, hwants, hreported | ⟨_, hstrayed, _, hexpects, ⟨⟩⟩⟩
    · exact hreported.elim
    · exact ⟨job, hwants, hexpects.same, hstrayed⟩

end WarehouseJobs
