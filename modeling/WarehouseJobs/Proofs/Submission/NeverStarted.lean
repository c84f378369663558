-- Faults that say the job was never started, and when that is so. The fault only knows that
-- it came up during the submission. The service may have the job all the same: it was there
-- before, or the create was not clearly refused.
import WarehouseJobs.Export.Run
import WarehouseJobs.Proofs.Programs.Keepers
import WarehouseJobs.Proofs.Submission.Courses

namespace WarehouseJobs

open Program

/-! ## Faults of a wait -/

/-- A result that is no fault from before the service took the job. -/
def Later {α : Type} (result : Except Fault α) : Prop :=
  ∀ fault, result = .error fault → fault.neverStarted = false

theorem later_ok {α : Type} (a : α) : Later (.ok a : Except Fault α) := nofun

theorem later_error {α : Type} {fault : Fault} (h : fault.neverStarted = false) :
    Later (.error fault : Except Fault α) := by
  rintro _ ⟨⟩
  exact h

namespace Waiting

variable {polling : PollingSettings} {project : ProjectId} {reference : JobReference}

theorem fetchStatus_yields : (fetchStatus project reference).Yields Later := by
  rw [fetchStatus_eq]
  refine Yields.bind_any fun answer => ?_
  cases answer with
  | error cause => exact later_error rfl
  | ok handle =>
    cases same : reference.sameJob handle.reference with
    | true =>
      rw [looked_of_same same]
      exact later_ok _
    | false =>
      rw [looked_of_other same]
      exact later_error rfl

theorem judge_later {limit errors : UInt32} {fetched : Except Fault JobHandle}
    {result : Except Fault WaitOutcome} (hf : Later fetched)
    (h : judge limit errors fetched = .decided result) : Later result := by
  unfold judge at h
  split at h
  · split at h
    · cases h
      exact later_ok _
    · cases h
  · split at h
    · cases h
      exact later_error (hf _ rfl)
    · split at h
      · cases h
        exact later_error rfl
      · cases h

theorem awaitFrom_yields (onTick : Nat → Work Unit) (rounds : Nat) (interval : Nanos)
    (errors : UInt32) (attempt : Nat) :
    (awaitFrom polling project reference onTick rounds interval errors attempt).Yields Later := by
  induction rounds generalizing interval errors attempt with
  | zero => trivial
  | succ rounds ih =>
    rw [awaitFrom]
    refine Yields.bind_any fun signal => ?_
    split
    · exact Yields.bind_any fun _ => later_ok _
    · refine fetchStatus_yields.bind fun fetched hfetched => ?_
      refine Yields.bind_any fun _ => Yields.bind_any fun _ => ?_
      cases hjudge : judge polling.maxTransientErrors errors fetched with
      | decided result => exact judge_later hfetched hjudge
      | again errors =>
        refine Yields.bind_any fun _ => Yields.bind_any fun cancelled => ?_
        split
        · exact Yields.bind_any fun _ => later_ok _
        · exact ih _ _ _

end Waiting

theorem Exporter.await_yields (e : Exporter) (rounds : Nat) (project : ProjectId)
    (started : Nanos) (handle : JobHandle) (onTick : Nat → Work Unit) :
    (e.await rounds project started handle onTick).Yields Later := by
  unfold await
  refine (Waiting.awaitFrom_yields onTick rounds _ _ _).bind fun result hresult => ?_
  cases result with
  | error fault => exact later_error (hresult fault rfl)
  | ok outcome =>
    cases outcome with
    | cancelled => exact later_error rfl
    | completed finished =>
      refine Yields.bind_any fun _ => Yields.bind_any fun _ => ?_
      split
      · exact later_error rfl
      · exact later_ok _

/-- What an export does after its submission. Nothing fails there as if no job was started. -/
theorem Exporter.rest_yields (e : Exporter) (rounds : Nat) (project : ProjectId)
    (job : JobDescription) (started : Nanos) (handle : JobHandle) (wait : Bool)
    (onTick : Nat → Work Unit) :
    Program.Yields Later (do
      Work.log (submittedEvent project handle job.task)
      if wait then e.await rounds project started handle onTick else pure (.ok handle)) := by
  refine Yields.bind_any fun _ => ?_
  split
  · exact e.await_yields rounds project started handle onTick
  · exact later_ok handle

/-! ## Calls that fail -/

namespace Submission

variable {project : ProjectId} {job : JobDescription} {ts : List (Turn WorkSignature)}
  {fault : Fault}

theorem submit_fails_iff :
    (submit project job).Ends ts (.error fault) ↔
      (submitClassified project job).Ends ts (.error fault) := by
  unfold submit
  rw [bind_eq, ends_bind_iff]
  constructor
  · rintro ⟨us, result, vs, rfl, hp, hf⟩
    cases result with
    | ok outcome =>
      obtain ⟨-, h⟩ := ends_done_iff.mp hf
      cases h
    | error fault =>
      obtain ⟨rfl, h⟩ := ends_done_iff.mp hf
      cases h
      rwa [List.append_nil]
  · intro h
    exact ⟨ts, .error fault, [], (List.append_nil ts).symm, h, ends_done_iff.mpr ⟨rfl, rfl⟩⟩

/-- The ways to submit a job: either of the two calls, or as a part of an export. -/
inductive Entry where
  | plain
  | classified
  | exported
deriving DecidableEq

/-- With these turns, a call fails with this fault. -/
inductive Fails : Entry → List (Turn WorkSignature) → Fault → Prop
  | plain {project : ProjectId} {job : JobDescription} {ts : List (Turn WorkSignature)}
      {fault : Fault} : (submit project job).Ends ts (.error fault) → Fails .plain ts fault
  | classified {project : ProjectId} {job : JobDescription} {ts : List (Turn WorkSignature)}
      {fault : Fault} :
      (submitClassified project job).Ends ts (.error fault) → Fails .classified ts fault
  | exported {e : Exporter} {rounds : Nat} {project : ProjectId} {source : TableReference}
      {destinations : List Destination} {wait : Bool} {onTick : Nat → Work Unit}
      {ts : List (Turn WorkSignature)} {fault : Fault} :
      (e.run rounds project source destinations wait onTick).Ends ts (.error fault) →
      Fails .exported ts fault

/-- The turns have one create, and it was answered with an error. -/
def OneRefused (ts : List (Turn WorkSignature)) : Prop :=
  ∃ project job cause before rest, ts = before ++ createTurn project job (.error cause) :: rest ∧
    ∀ t ∈ before ++ rest, isCreate t = false

theorem OneRefused.append_left {us : List (Turn WorkSignature)}
    (hus : ∀ t ∈ us, isCreate t = false) (h : OneRefused ts) : OneRefused (us ++ ts) := by
  obtain ⟨project, job, cause, before, rest, rfl, hno⟩ := h
  refine ⟨project, job, cause, us ++ before, rest, by simp, ?_⟩
  intro t ht
  rw [List.append_assoc] at ht
  rcases List.mem_append.mp ht with ht | ht
  · exact hus t ht
  · exact hno t ht

theorem Course.oneRefused (h : Course project job ts (.error fault))
    (hf : fault.neverStarted = true) : OneRefused ts := by
  cases h with
  | foreign _ => cases hf
  | foreignDuplicate _ _ => cases hf
  | rejected _ => exact ⟨project, job, _, [], _, rfl, by simp [isCreate, logTurn]⟩
  | lookupFailed _ => exact ⟨project, job, _, [], _, rfl, by simp [isCreate, logTurn, lookupTurn]⟩

theorem submitClassified_without_id (hid : job.reference.id.text.isEmpty = true) :
    submitClassified project job = .done (.error (.argument .missingJobId)) := if_pos hid

/-- A call that fails before the service took the job has asked for no create, or for one that
was answered with an error. -/
theorem submitClassified_oneRefused
    (h : (submitClassified project job).Ends ts (.error fault))
    (hf : fault.neverStarted = true) : ts = [] ∨ OneRefused ts := by
  cases hid : job.reference.id.text.isEmpty with
  | true =>
    rw [submitClassified_without_id hid] at h
    exact .inl (ends_done_iff.mp h).1
  | false => exact .inr ((course_of_ends hid h).oneRefused hf)

theorem run_oneRefused {e : Exporter} {rounds : Nat} {source : TableReference}
    {destinations : List Destination} {wait : Bool} {onTick : Nat → Work Unit}
    (h : (e.run rounds project source destinations wait onTick).Ends ts (.error fault))
    (hf : fault.neverStarted = true) :
    (∀ t ∈ ts, isCreate t = false) ∨ OneRefused ts := by
  unfold Exporter.run at h
  split at h
  · obtain ⟨rfl, -⟩ := ends_done_iff.mp h
    exact .inl (by simp)
  · rw [Work.ends_draw_iff] at h
    obtain ⟨random, rest, rfl, h⟩ := h
    cases hgen : e.rules.generate project.text e.idPrefix random with
    | error refused =>
      rw [hgen] at h
      obtain ⟨rfl, -⟩ := ends_done_iff.mp h
      exact .inl (by simp [isCreate])
    | ok reference =>
      rw [hgen] at h
      simp only at h
      rw [Work.ends_now_iff] at h
      obtain ⟨started, rest, rfl, h⟩ := h
      rw [bind_eq, ends_bind_iff] at h
      obtain ⟨us, result, vs, rfl, hsubmit, h⟩ := h
      cases result with
      | error failure =>
        obtain ⟨rfl, hfault⟩ := ends_done_iff.mp h
        cases hfault
        rw [List.append_nil]
        rcases submitClassified_oneRefused (submit_fails_iff.mp hsubmit) hf with rfl | hone
        · exact .inl (by simp [isCreate])
        · have hfirst : ∀ t ∈ [(⟨.locally .draw, random⟩ : Turn WorkSignature),
              ⟨.locally .now, started⟩], isCreate t = false := by simp [isCreate]
          exact .inr (hone.append_left hfirst)
      | ok handle =>
        have hlater := (e.rest_yields rounds project _ started handle wait onTick).of_ends h
        exact absurd (hlater fault rfl) (by simp [hf])

theorem Fails.oneRefused {entry : Entry} (h : Fails entry ts fault)
    (hf : fault.neverStarted = true) :
    (∀ t ∈ ts, isCreate t = false) ∨ OneRefused ts := by
  have hclassified : ∀ {p : ProjectId} {j : JobDescription},
      (submitClassified p j).Ends ts (.error fault) →
      (∀ t ∈ ts, isCreate t = false) ∨ OneRefused ts := by
    intro p j hends
    rcases submitClassified_oneRefused hends hf with rfl | hone
    · exact .inl (by simp)
    · exact .inr hone
  cases h with
  | plain h => exact hclassified (submit_fails_iff.mp h)
  | classified h => exact hclassified h
  | exported h => exact run_oneRefused h hf

/-! ## Services that may take a job in spite of an error -/

/-- A create that fails so may have made the job: the answer was lost, or it cannot be read,
or it says that there is such a job. -/
def LeavesOpen (cause : RemoteFault) : Prop :=
  cause.status = none ∨ cause.reason = some "invalidResponse" ∨
    cause.classify = .transient ∨ cause.classify = .alreadyExists

def MayRecord : Except RemoteFault JobHandle → Prop
  | .ok _ => True
  | .error cause => LeavesOpen cause

/-- A create records its own job or none, and none if it is clearly refused. Nothing else
changes which jobs there are. -/
structure Forthright (K : Keeper WorkSignature) : Prop where
  create : ∀ {s project job answer s'}, K.Answers s (.create project job) answer s' →
    K.SameJobs s s' ∨ MayRecord answer ∧ K.OneMore s s' job.reference
  other : ∀ {s r answer s'}, (∀ project job, r ≠ .create project job) →
    K.Answers s r answer s' → K.SameJobs s s'

theorem isCreate_eq_false_iff {t : Turn WorkSignature} :
    isCreate t = false ↔ ∀ project job, t.request ≠ .create project job := by
  unfold isCreate
  cases t.request <;> simp

theorem Forthright.sameJobs_of_serves {K : Keeper WorkSignature} (hk : Forthright K)
    {s s' : K.State} (h : K.Serves s ts s') (hts : ∀ t ∈ ts, isCreate t = false) :
    K.SameJobs s s' :=
  Keeper.serves_same h hts fun hone hans => hk.other (isCreate_eq_false_iff.mp hone) hans

/-- If the only create was clearly refused, there are the same jobs as before. -/
theorem Forthright.sameJobs_of_refused {K : Keeper WorkSignature} (hk : Forthright K)
    {s s' : K.State} {cause : RemoteFault} {before rest : List (Turn WorkSignature)}
    (h : K.Serves s (before ++ createTurn project job (.error cause) :: rest) s')
    (hclear : ¬ LeavesOpen cause) (hno : ∀ t ∈ before ++ rest, isCreate t = false) :
    K.SameJobs s s' := by
  obtain ⟨m, hbefore, h⟩ := Responder.serves_append.mp h
  cases h with
  | cons hans hrest =>
    have hfirst := hk.sameJobs_of_serves hbefore fun t ht => hno t (List.mem_append_left _ ht)
    have hlast := hk.sameJobs_of_serves hrest fun t ht => hno t (List.mem_append_right _ ht)
    rcases hk.create hans with hsame | ⟨hmay, _⟩
    · exact hfirst.trans (hsame.trans hlast)
    · exact absurd hmay hclear

/-! ## When the fault is right -/

/-- Whenever a call fails with a fault that says the job was never started, after its create
failed with `cause`, the service does not hold the job. `held` tells whether it held the job
before. -/
def Truthful (entry : Entry) (held : Prop) (cause : RemoteFault) : Prop :=
  ∀ (K : Keeper WorkSignature), Forthright K →
    ∀ {s s' : K.State} {ts : List (Turn WorkSignature)} {fault : Fault} {project : ProjectId}
      {job : JobDescription}, Fails entry ts fault → fault.neverStarted = true →
    K.Serves s ts s' → createTurn project job (.error cause) ∈ ts →
    (K.Holds s job.reference ↔ held) → ¬ K.Holds s' job.reference

theorem truthful_of_refused {entry : Entry} {held : Prop} {cause : RemoteFault} (hheld : ¬ held)
    (hclear : ¬ LeavesOpen cause) : Truthful entry held cause := by
  intro K hk s s' ts fault project job h hf hserves hmem hbefore
  rcases h.oneRefused hf with hno | ⟨p, j, c, before, rest, rfl, hno⟩
  · exact absurd (hno _ hmem) (by simp [isCreate, createTurn])
  · -- There is one create only, so it is the one that failed with `cause`.
    have hone : createTurn project job (.error cause) = createTurn p j (.error c) := by
      rcases List.mem_append.mp hmem with hm | hm
      · exact absurd (hno _ (List.mem_append_left _ hm)) (by simp [isCreate, createTurn])
      · rcases List.mem_cons.mp hm with hm | hm
        · exact hm
        · exact absurd (hno _ (List.mem_append_right _ hm)) (by simp [isCreate, createTurn])
    rw [← hone] at hserves
    have hsame := hk.sameJobs_of_refused hserves hclear hno
    rw [hsame.holds_iff, hbefore]
    exact hheld

/-! ## When the fault is wrong -/

/-- A service that answers as it likes, and keeps what it may keep. -/
def whimsical : Keeper WorkSignature where
  State := List JobReference
  Answers s r answer s' := s' = s ∨
    match r, answer with
    | .create _ job, answer => MayRecord answer ∧ s' = job.reference :: s
    | _, _ => False
  jobs s := s

theorem whimsical_forthright : Forthright whimsical where
  create := by
    rintro s project job answer s' (rfl | ⟨hmay, rfl⟩)
    · exact .inl (.refl _)
    · exact .inr ⟨hmay, job.reference, JobReference.sameJob_refl _, List.Perm.refl _⟩
  other := by
    rintro s r answer s' hr (rfl | h)
    · exact .refl _
    · cases r with
      | create project job => exact absurd rfl (hr project job)
      | get _ _ _ => exact h.elim
      | table _ => exact h.elim
      | locally _ => exact h.elim

theorem whimsical_serves (ts : List (Turn WorkSignature)) (s : whimsical.State) :
    whimsical.Serves s ts s := by
  induction ts with
  | nil => exact .nil s
  | cons t ts ih => exact .cons (.inl rfl) ih

/-- A submission that fails before the service took the job, after its create failed so. -/
theorem exists_course (project : ProjectId) (job : JobDescription) (cause : RemoteFault) :
    ∃ rest fault, Course project job (createTurn project job (.error cause) :: rest)
      (.error fault) ∧ fault.neverStarted = true := by
  by_cases hc : cause.classify = .alreadyExists
  · exact ⟨_, _, @Course.lookupFailed _ _ _ (.ofTransport "lost") hc, rfl⟩
  · exact ⟨_, _, .rejected hc, rfl⟩

/-- An exporter that finds any id good. -/
def easyGoing : Exporter where
  rules := ⟨"", .empty, 64⟩
  idPrefix := "job"
  format := .csv
  location := none
  polling := {}

def orders : TableReference := ⟨"demo", "sales", "orders"⟩

def bucket : List Destination := [⟨"gs://demo/orders.csv", "demo"⟩]

def firstDraw : Uuid := .ofRandom fun _ => 0

/-- The reference that the exporter makes with that draw. -/
def exported : JobReference := { project := ⟨"demo"⟩, id := ⟨newId "job" firstDraw⟩ }

theorem generate_exported :
    easyGoing.rules.generate "demo" easyGoing.idPrefix firstDraw = .ok exported := by rfl

/-- The job that the exporter submits then. -/
def exportedJob : JobDescription := easyGoing.description exported orders bucket

theorem exportedJob_hasId : exportedJob.reference.id.text.isEmpty = false := by decide +kernel

theorem run_fails_of_submit {us : List (Turn WorkSignature)}
    (h : (submit ⟨"demo"⟩ exportedJob).Ends us (.error fault)) :
    (easyGoing.run 0 ⟨"demo"⟩ orders bucket false Work.tick).Ends
      (⟨.locally .draw, firstDraw⟩ :: ⟨.locally .now, (0 : Nat)⟩ :: us) (.error fault) := by
  unfold Exporter.run
  rw [if_neg (by simp [bucket]), Work.ends_draw_iff]
  refine ⟨firstDraw, _, rfl, ?_⟩
  rw [generate_exported]
  simp only
  rw [Work.ends_now_iff]
  refine ⟨_, _, rfl, ?_⟩
  rw [bind_eq, ends_bind_iff]
  exact ⟨us, .error fault, [], (List.append_nil us).symm, h, ends_done_iff.mpr ⟨rfl, rfl⟩⟩

/-- However a job is submitted and whatever its create fails with, the call can fail with a
fault that says the job was never started. -/
theorem exists_fails (entry : Entry) (cause : RemoteFault) :
    ∃ before project job rest fault,
      Fails entry (before ++ createTurn project job (.error cause) :: rest) fault ∧
        fault.neverStarted = true := by
  obtain ⟨rest, fault, hcourse, hf⟩ := exists_course ⟨"demo"⟩ exportedJob cause
  have hends := hcourse.ends exportedJob_hasId
  cases entry with
  | plain => exact ⟨[], _, _, _, _, .plain (submit_fails_iff.mpr hends), hf⟩
  | classified => exact ⟨[], _, _, _, _, .classified hends, hf⟩
  | exported =>
    have hrun := run_fails_of_submit (submit_fails_iff.mpr hends)
    exact ⟨[_, _], _, _, _, _, .exported hrun, hf⟩

/-- A service that held the job before holds it after any such failure. -/
theorem not_held_of_truthful {entry : Entry} {held : Prop} {cause : RemoteFault}
    (h : Truthful entry held cause) : ¬ held := by
  intro hheld
  obtain ⟨before, project, job, rest, fault, hfails, hf⟩ := exists_fails entry cause
  let s : whimsical.State := [job.reference]
  have hs : whimsical.Holds s job.reference :=
    ⟨job.reference, List.mem_cons_self, JobReference.sameJob_refl _⟩
  exact h whimsical whimsical_forthright hfails hf (whimsical_serves _ s)
    (List.mem_append_right _ List.mem_cons_self) (iff_of_true hs hheld) hs

/-- If the create was not clearly refused, a service may have made the job. -/
theorem clear_of_truthful {entry : Entry} {held : Prop} {cause : RemoteFault} (hheld : ¬ held)
    (h : Truthful entry held cause) : ¬ LeavesOpen cause := by
  intro hopen
  obtain ⟨before, project, job, rest, fault, hfails, hf⟩ := exists_fails entry cause
  let s : whimsical.State := []
  let s' : whimsical.State := [job.reference]
  have hs : ¬ whimsical.Holds s job.reference := by
    rintro ⟨x, hx, -⟩
    cases hx
  have hs' : whimsical.Holds s' job.reference :=
    ⟨job.reference, List.mem_cons_self, JobReference.sameJob_refl _⟩
  have hmake : whimsical.Answers s (.create project job) (.error cause) s' :=
    .inr ⟨hopen, rfl⟩
  have hserves : whimsical.Serves s (before ++ createTurn project job (.error cause) :: rest) s' :=
    Responder.serves_append.mpr
      ⟨s, whimsical_serves before s, .cons hmake (whimsical_serves rest s')⟩
  exact h whimsical whimsical_forthright hfails hf hserves
    (List.mem_append_right _ List.mem_cons_self) (iff_of_false hs hheld) hs'

/-- A fault that says the job was never started comes from a call that asked for no create, and
then no job came or went, or for one create that was answered with an error. Then the fault is
right, for all services, exactly if the job was not there before and the error was a clear
refusal. After a lost answer, an answer that cannot be read or a duplicate it may be wrong. -/
theorem neverStarted_is_right_after_clear_refusals_only (entry : Entry) :
    (∀ ts fault, Fails entry ts fault → fault.neverStarted = true →
      ((∀ t ∈ ts, isCreate t = false) ∧
        ∀ K, Forthright K → ∀ s s', K.Serves s ts s' → K.SameJobs s s') ∨ OneRefused ts) ∧
    ∀ held cause, Truthful entry held cause ↔ ¬ held ∧ ¬ LeavesOpen cause := by
  refine ⟨fun ts fault h hf => ?_, fun held cause => ⟨fun h => ?_, fun ⟨hheld, hclear⟩ => ?_⟩⟩
  · rcases h.oneRefused hf with hno | hone
    · exact .inl ⟨hno, fun K hk s s' hserves => hk.sameJobs_of_serves hserves hno⟩
    · exact .inr hone
  · have hheld := not_held_of_truthful h
    exact ⟨hheld, clear_of_truthful hheld h⟩
  · exact truthful_of_refused hheld hclear

end Submission
end WarehouseJobs
