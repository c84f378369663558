-- What the outcome of an export tells about how far it got. An export draws an id, submits the
-- job and watches it; each of these parts has its own ways to fail, and no two parts share one.
import WarehouseJobs.Proofs.Export.Parts
import WarehouseJobs.Proofs.Settings.IssuedIds

namespace WarehouseJobs

open Program

/-! ## Exports, part by part -/

namespace Exporter

/-- What an export that saw the end of its job comes to. -/
def ending (handle : JobHandle) : Except Fault JobHandle :=
  if handle.state = .failed then .error (.remote (executionFault handle)) else .ok handle

/-- The result of an export that submitted its job, and did not see the end of it. -/
def Missed : Except Fault JobHandle → Prop
  | .ok _ => False
  | .error (.cancelled _) => True
  | .error fault => Unseen fault

/-- What an export does with a job that it has submitted. -/
def followUp (e : Exporter) (rounds : Nat) (project : ProjectId) (started : Nanos)
    (task : JobTask) (wait : Bool) (watcher : Watcher) (handle : JobHandle) :
    Work (Except Fault JobHandle) := do
  Work.log (submittedEvent project handle task)
  if wait then e.await rounds project started handle watcher.onTick else pure (.ok handle)

/-- An export that has its id. -/
def carryOut (e : Exporter) (rounds : Nat) (project : ProjectId) (job : JobDescription)
    (wait : Bool) (watcher : Watcher) : Work (Except Fault JobHandle) := do
  let started ← Work.now
  match ← Submission.submit project job with
  | .error fault => pure (.error fault)
  | .ok handle => e.followUp rounds project started job.task wait watcher handle

variable {e : Exporter} {rounds : Nat} {project : ProjectId} {source : TableReference}
  {destinations : List Destination} {wait : Bool} {watcher : Watcher} {started : Nanos}
  {job : JobDescription} {ts us vs : List (Turn WorkSignature)} {handle : JobHandle}
  {result submitted : Except Fault JobHandle} {q : Work (Except Fault JobHandle)}

theorem run_eq (hd : destinations ≠ []) :
    e.run rounds project source destinations wait watcher.onTick = (do
      let u ← Work.draw
      match e.rules.generate project.text e.idPrefix u with
      | .error fault => pure (.error fault)
      | .ok reference =>
        e.carryOut rounds project (e.description reference source destinations) wait watcher) :=
  if_neg (by simpa using hd)

/-- Once an export has seen the end of its job, it only tells about it. -/
theorem finish_concludes (started : Nanos) (finished : JobHandle) :
    (do
      let now ← Work.now
      Work.log (finishedEvent finished (now - started))
      if finished.state = .failed then pure (.error (.remote (executionFault finished)))
      else pure (.ok finished) : Work (Except Fault JobHandle)).Concludes (· = ending finished) := by
  refine ⟨rfl, fun now => ⟨rfl, fun _ => ?_⟩⟩
  show Concludes _ (if finished.state = .failed then _ else _)
  unfold ending
  split <;> rfl

theorem await_heeds {reference : JobReference} (hsame : reference.sameJob handle.reference = true) :
    Heeds reference (fun finished result => result = ending finished) Missed
      (e.await rounds project started handle watcher.onTick) := by
  unfold await
  refine (awaitFrom_heeds hsame watcher _ _ _ _).bind ?_ fun waited hwaited => ?_
  · rintro finished _ rfl
    exact finish_concludes started finished
  · cases waited with
    | ok outcome =>
      cases outcome with
      | cancelled => trivial
      | completed finished => exact hwaited.elim
    | error fault =>
      cases fault with
      | cancelled id => trivial
      | _ => exact hwaited

theorem followUp_heeds (hsame : job.reference.sameJob handle.reference = true) :
    Heeds job.reference (fun finished result => result = ending finished) Missed
      (e.followUp rounds project started job.task true watcher handle) :=
  heeds_locally fun _ => await_heeds hsame

theorem followUp_asksOnly : (e.followUp rounds project started job.task wait watcher handle).AsksOnly
    (LooksUnder project handle.reference) := by
  refine ⟨trivial, fun _ => ?_⟩
  split
  · refine (awaitFrom_asksOnly watcher _ _ _ _).bind fun waited => ?_
    cases waited with
    | error fault => trivial
    | ok outcome =>
      cases outcome with
      | cancelled => trivial
      | completed finished =>
        refine ⟨trivial, fun _ => ⟨trivial, fun _ => ?_⟩⟩
        split <;> trivial
  · trivial

/-- The job that was accepted has the id of the job that was asked for. -/
theorem followUp_looksAt (hsame : job.reference.sameJob handle.reference = true) :
    (e.followUp rounds project started job.task wait watcher handle).AsksOnly
      (LooksAt project job.reference.id) := by
  rw [← (names_of_same hsame).2]
  exact followUp_asksOnly.mono fun _ => LooksUnder.looksAt

/-- Wherever an export with an id stands, it has asked for one create at most, and but for that
create only looked at its job. -/
theorem carryOut_asked (hid : job.reference.id.text.isEmpty = false)
    (h : (e.carryOut rounds project job wait watcher).Goes ts q) :
    creates ts <+: [(project, job)] ∧
      ∀ t ∈ ts, t.create? = none → LooksAt project job.reference.id t.request := by
  unfold carryOut at h
  rw [Submission.submit_creates hid] at h
  cases h with
  | here => exact ⟨List.nil_prefix, by simp⟩
  | turn h =>
    cases h with
    | here => exact ⟨List.nil_prefix, by simp [LooksAt]⟩
    | @turn _ _ answer rest _ h =>
      have hrest : ∀ t ∈ rest, LooksAt project job.reference.id t.request := by
        refine (AsksOnly.goes ?_ h).1
        refine AsksOnly.bind_yields (P := Submission.Submitted job) ?_ ?_
          fun submitted hsubmitted => ?_
        · exact ((Submission.afterCreate_asksOnly answer).mono fun _ => LooksUnder.looksAt).bind
            fun _ => trivial
        · exact (Submission.afterCreate_yields answer).bind fun _ h => h
        · cases submitted with
          | error fault => trivial
          | ok handle => exact followUp_looksAt hsubmitted
      constructor
      · have hone : (project, job) :: creates rest = [(project, job)] :=
          congrArg _ (creates_of_looksAt hrest)
        exact hone ▸ List.prefix_rfl
      · intro t ht hnone
        rcases List.mem_cons.mp ht with rfl | ht
        · trivial
        rcases List.mem_cons.mp ht with rfl | ht
        · cases hnone
        · exact hrest t ht

/-- How an export with an id ends: the turns of its submission come first, and then those of what
it does with the job. -/
theorem carryOut_ends (h : (e.carryOut rounds project job wait watcher).Ends ts result) :
    ∃ started us submitted vs, ts = nowTurn started :: (us ++ vs) ∧
      (Submission.submit project job).Ends us submitted ∧
      match submitted with
      | .error fault => vs = [] ∧ result = .error fault
      | .ok handle =>
        (e.followUp rounds project started job.task wait watcher handle).Ends vs result := by
  unfold carryOut at h
  obtain ⟨started, rest, rfl, hrest⟩ := Work.ends_now_iff.mp h
  rw [bind_eq, ends_bind_iff] at hrest
  obtain ⟨us, submitted, vs, rfl, hsubmit, hrest⟩ := hrest
  refine ⟨started, us, submitted, vs, rfl, hsubmit, ?_⟩
  cases submitted with
  | ok handle => exact hrest
  | error fault =>
    obtain ⟨rfl, rfl⟩ := ends_done_iff.mp hrest
    exact ⟨rfl, rfl⟩

/-! ## What the outcome tells -/

/-- What the result of an export of `job` tells, where `submitted` is what its submission came to
in the turns `us`, and `vs` are the turns after it. -/
structure Tells (job : JobDescription) (wait : Bool) (us : List (Turn WorkSignature))
    (submitted : Except Fault JobHandle) (vs : List (Turn WorkSignature))
    (result : Except Fault JobHandle) : Prop where
  atOnce : wait = false → result = submitted ∧ looks vs = [] ∧ ticks (us ++ vs) = 0
  ok_iff : wait = true → ∀ handle, result = .ok handle ↔
    (∃ accepted, submitted = .ok accepted) ∧ LastSaw job.reference vs handle ∧
      handle.state = .done
  submission : ∀ fault, result = .error (.remote fault) → fault.stage = .submission →
    looks vs = [] ∧ ticks (us ++ vs) = 0
  polling : ∀ fault, result = .error (.remote fault) → fault.stage = .polling →
    ∃ accepted, submitted = .ok accepted
  cancelled : ∀ id, result = .error (.cancelled id) → ∃ accepted, submitted = .ok accepted
  execution_iff : (∃ fault, result = .error (.remote fault) ∧ fault.stage = .execution) ↔
    ∃ handle, LastSaw job.reference vs handle ∧ handle.state = .failed
  execution : ∀ handle, LastSaw job.reference vs handle → handle.state = .failed →
    ∃ fault, result = .error (.remote fault) ∧ fault.verdict = .fatal ∧
      ∀ detail, handle.errorResult = some detail →
        fault.cause.reason = detail.reason ∧ fault.cause.message = detail.message

theorem not_lastSaw_of_no_looks (h : looks vs = []) : ¬ LastSaw job.reference vs handle := by
  intro hsaw
  have hlast := hsaw.last
  rw [h] at hlast
  cases hlast

/-- An export whose submission failed. -/
theorem tells_of_not_submitted {fault : Fault} (hus : ticks us = 0)
    (hsubmitted : Submission.Submitted job (.error fault)) :
    Tells job wait us (.error fault) [] (.error fault) := by
  have hticks : ticks (us ++ []) = 0 := by rwa [List.append_nil]
  refine ⟨fun _ => ⟨rfl, rfl, hticks⟩, fun _ handle => ⟨nofun, ?_⟩, fun _ _ _ => ⟨rfl, hticks⟩,
    fun staged h hstage => ?_, fun id h => ?_, ⟨?_, ?_⟩, ?_⟩
  · rintro ⟨⟨_, ⟨⟩⟩, _⟩
  · cases h
    rw [show staged.stage = .submission from hsubmitted] at hstage
    cases hstage
  · cases h
    exact hsubmitted.elim
  · rintro ⟨staged, h, hstage⟩
    cases h
    rw [show staged.stage = .submission from hsubmitted] at hstage
    cases hstage
  · rintro ⟨handle, hsaw, -⟩
    exact absurd hsaw (not_lastSaw_of_no_looks rfl)
  · intro handle hsaw
    exact absurd hsaw (not_lastSaw_of_no_looks rfl)

/-- An export that does not wait for its job. -/
theorem tells_at_once (hus : ticks us = 0) (event : LogEvent) :
    Tells job false us (.ok handle) [Submission.logTurn event] (.ok handle) := by
  have hticks : ticks (us ++ [Submission.logTurn event]) = 0 := by
    unfold ticks at hus ⊢
    rw [List.countP_append, hus]
    rfl
  refine ⟨fun _ => ⟨rfl, rfl, hticks⟩, nofun, nofun, nofun, nofun, ⟨?_, ?_⟩, ?_⟩
  · rintro ⟨staged, ⟨⟩, _⟩
  · rintro ⟨finished, hsaw, -⟩
    exact absurd hsaw (not_lastSaw_of_no_looks rfl)
  · intro finished hsaw
    exact absurd hsaw (not_lastSaw_of_no_looks rfl)

theorem ending_of_done {finished : JobHandle} (h : finished.state = .done) :
    ending finished = .ok finished := if_neg (by rw [h]; nofun)

theorem ending_of_failed {finished : JobHandle} (h : finished.state = .failed) :
    ending finished = .error (.remote (executionFault finished)) := if_pos h

/-- An export that waits, of whose job no look has shown the end. -/
theorem tells_of_missed (hnone : ∀ t ∈ vs, t.ended? job.reference = none) (h : Missed result) :
    Tells job true us (.ok handle) vs result := by
  have hunseen : ∀ finished, LastSaw job.reference vs finished → finished.isTerminal = false := by
    intro finished hsaw
    refine eq_false_of_ne_true fun hterminal => ?_
    obtain ⟨t, ht, hended⟩ := hsaw.ended hterminal
    rw [hnone t ht] at hended
    cases hended
  have hrunning : ∀ finished, LastSaw job.reference vs finished →
      finished.state ≠ .done ∧ finished.state ≠ .failed := by
    intro finished hsaw
    have hterminal := hunseen finished hsaw
    unfold JobHandle.isTerminal at hterminal
    constructor <;> intro hstate <;> rw [hstate] at hterminal <;> cases hterminal
  have hpolling : ∀ fault, result = .error (.remote fault) → fault.stage = .polling := by
    rintro fault rfl
    exact h
  refine ⟨nofun, fun _ finished => ⟨?_, ?_⟩, fun fault hresult hstage => ?_,
    fun _ _ _ => ⟨handle, rfl⟩, fun _ _ => ⟨handle, rfl⟩, ⟨?_, ?_⟩, ?_⟩
  · rintro rfl
    exact h.elim
  · rintro ⟨-, hsaw, hdone⟩
    exact absurd hdone (hrunning finished hsaw).1
  · rw [hpolling fault hresult] at hstage
    cases hstage
  · rintro ⟨fault, hresult, hstage⟩
    rw [hpolling fault hresult] at hstage
    cases hstage
  · rintro ⟨finished, hsaw, hfailed⟩
    exact absurd hfailed (hrunning finished hsaw).2
  · intro finished hsaw hfailed
    exact absurd hfailed (hrunning finished hsaw).2

/-- An export that waits, whose last look showed the end of the job. -/
theorem tells_of_ended {finished : JobHandle} (hsaw : LastSaw job.reference vs finished)
    (hterminal : finished.isTerminal = true) :
    Tells job true us (.ok handle) vs (ending finished) := by
  have hlast : ∀ seen, LastSaw job.reference vs seen → seen = finished :=
    fun _ h => h.unique hsaw
  cases hstate : finished.state with
  | done =>
    rw [ending_of_done hstate]
    refine ⟨nofun, fun _ seen => ⟨?_, ?_⟩, nofun, nofun, nofun, ⟨nofun, ?_⟩, ?_⟩
    · rintro ⟨⟩
      exact ⟨⟨handle, rfl⟩, hsaw, hstate⟩
    · rintro ⟨-, hseen, -⟩
      rw [hlast seen hseen]
    · rintro ⟨seen, hseen, hfailed⟩
      rw [hlast seen hseen, hstate] at hfailed
      cases hfailed
    · intro seen hseen hfailed
      rw [hlast seen hseen, hstate] at hfailed
      cases hfailed
  | failed =>
    rw [ending_of_failed hstate]
    refine ⟨nofun, fun _ seen => ⟨nofun, ?_⟩, ?_, ?_, nofun, ⟨?_, ?_⟩, ?_⟩
    · rintro ⟨-, hseen, hdone⟩
      rw [hlast seen hseen, hstate] at hdone
      cases hdone
    · rintro _ ⟨⟩ ⟨⟩
    · rintro _ ⟨⟩ ⟨⟩
    · exact fun _ => ⟨finished, hsaw, hstate⟩
    · exact fun _ => ⟨_, rfl, rfl⟩
    · intro seen hseen _
      rw [hlast seen hseen]
      refine ⟨_, rfl, rfl, fun detail hdetail => ?_⟩
      unfold executionFault
      rw [hdetail]
      exact ⟨rfl, rfl⟩
  | _ =>
    unfold JobHandle.isTerminal at hterminal
    rw [hstate] at hterminal
    cases hterminal

/-- Once a job is submitted, all that happens to it is told. -/
theorem tells_of_submitted (hus : ticks us = 0)
    (hsame : job.reference.sameJob handle.reference = true)
    (h : (e.followUp rounds project started job.task wait watcher handle).Ends vs result) :
    Tells job wait us (.ok handle) vs result := by
  cases wait with
  | false =>
    obtain ⟨rest, rfl, hrest⟩ := Work.ends_log_iff.mp h
    obtain ⟨rfl, rfl⟩ := ends_done_iff.mp hrest
    exact tells_at_once hus _
  | true =>
    rcases (followUp_heeds hsame).goes h with ⟨hnone, hmissed⟩ | ⟨finished, hsaw, hterminal, hended⟩
    · exact tells_of_missed hnone hmissed
    · cases (show result = ending finished from hended)
      exact tells_of_ended hsaw hterminal

/-- The run of an export of a job under an id drawn, from its first turn on. -/
theorem tells_of_carryOut (hid : job.reference.id.text.isEmpty = false)
    (h : (e.carryOut rounds project job wait watcher).Ends ts result) :
    creates ts = [(project, job)] ∧ ∃ started us submitted vs,
      ts = nowTurn started :: (us ++ vs) ∧ (Submission.submit project job).Ends us submitted ∧
        Tells job wait us submitted vs result := by
  obtain ⟨started, us, submitted, vs, rfl, hsubmit, hrest⟩ := carryOut_ends h
  obtain ⟨hcreates, hticks⟩ := Submission.submit_creates_once hid hsubmit
  have hsubmitted := (Submission.submit_yields hid).of_ends hsubmit
  have hall : creates (nowTurn started :: (us ++ vs)) = [(project, job)] ++ creates vs := by
    show creates (us ++ vs) = _
    rw [creates, List.filterMap_append]
    congr 1
  cases submitted with
  | error fault =>
    obtain ⟨rfl, rfl⟩ := hrest
    exact ⟨hall, started, us, _, [], rfl, hsubmit, tells_of_not_submitted hticks hsubmitted⟩
  | ok handle =>
    have hvs := ((followUp_looksAt hsubmitted).goes hrest).1
    rw [creates_of_looksAt hvs] at hall
    exact ⟨hall, started, us, _, vs, rfl, hsubmit, tells_of_submitted hticks hsubmitted hrest⟩

/-- When a look shows the job at its end, the export is done with the service. -/
theorem carryOut_concludes (hid : job.reference.id.text.isEmpty = false)
    (hsubmit : (Submission.submit project job).Ends us (.ok handle)) {t : Turn WorkSignature}
    {finished : JobHandle} (hended : t.ended? job.reference = some finished)
    (h : (e.carryOut rounds project job true watcher).Goes
      (nowTurn started :: (us ++ (vs ++ [t]))) q) :
    q.Concludes (· = ending finished) := by
  have hsubmitted := (Submission.submit_yields hid).of_ends hsubmit
  unfold carryOut at h
  cases h with
  | turn h =>
    have hfollow := goes_of_ends_bind hsubmit h
    rcases (followUp_heeds hsubmitted).goes hfollow with ⟨hnone, -⟩ | ⟨seen, hsaw, -, hq⟩
    · rw [hnone t (List.mem_append_right _ List.mem_cons_self)] at hended
      cases hended
    · have hseen : seen = finished := by
        refine hsaw.unique ⟨?_, (Turn.ended?_eq_some_iff.mp hended).2.1⟩
        rw [looks_append, List.getLast?_append]
        simp [looks, (Turn.ended?_eq_some_iff.mp hended).1]
      rwa [hseen] at hq

/-- An export that does not wait ends after six requests at most. -/
theorem carryOut_endsWithin (hid : job.reference.id.text.isEmpty = false) :
    (e.carryOut rounds project job false watcher).EndsWithin 5 := by
  intro started
  rw [Submission.submit_eq]
  have hsubmit : (do
      let classified ← Submission.submitClassified project job
      pure (classified.map SubmitOutcome.handle) : Work _).EndsWithin (3 + 0) :=
    (Submission.submitClassified_endsWithin hid).bind fun _ => trivial
  refine hsubmit.bind (n := 1) fun submitted => ?_
  cases submitted with
  | error fault => trivial
  | ok handle => exact fun _ => trivial

/-- An export of which it is noted when whoever waits is told of a look. -/
def noted (e : Exporter) (rounds : Nat) (project : ProjectId) (source : TableReference)
    (destinations : List Destination) (wait : Bool) (watcher : Watcher) :
    Work (Except Fault JobHandle) :=
  e.run rounds project source destinations wait watcher.noted.onTick

/-- How the run of an export goes on, and what its result tells, after the turn that drew the id
of `job`. -/
structure Told (project : ProjectId) (job : JobDescription) (wait : Bool)
    (drawn : Turn WorkSignature) (run : Work (Except Fault JobHandle)) : Prop where
  /-- The job is asked for at once. -/
  asks : ∀ started, run.AsksAfter [drawn, nowTurn started] (.create project job)
  /-- It is asked for once at most, and all else that the service is asked for are looks at it. -/
  keeps : ∀ ts q, run.Goes (drawn :: ts) q → creates ts <+: [(project, job)] ∧
    ∀ t ∈ ts, t.create? = none → LooksAt project job.reference.id t.request
  ends : ∀ ts result, run.Ends (drawn :: ts) result → creates ts = [(project, job)] ∧
    ∃ started us submitted vs, ts = nowTurn started :: (us ++ vs) ∧
      (Submission.submit project job).Ends us submitted ∧ Tells job wait us submitted vs result
  /-- A look that shows the job at its end is the last thing the service is asked for. -/
  closes : wait = true → ∀ started us accepted vs t finished q,
    (Submission.submit project job).Ends us (.ok accepted) →
      t.ended? job.reference = some finished →
        run.Goes (drawn :: nowTurn started :: (us ++ (vs ++ [t]))) q →
          q.Concludes (· = ending finished)

/-- The job that an export asks for under an id drawn. -/
def wanted (e : Exporter) (project : ProjectId) (source : TableReference)
    (destinations : List Destination) (u : Uuid) : JobDescription where
  reference := e.asked project u
  task := .extract ⟨source, destinations, e.format⟩

theorem description_eq_wanted (u : Uuid) :
    e.description { project, id := ⟨newId e.idPrefix u⟩ } source destinations =
      e.wanted project source destinations u := by
  unfold wanted
  rw [← e.description_reference u source destinations]
  rfl

/-- The reference that is issued names the id drawn. -/
theorem description_of_generate {u : Uuid} {reference : JobReference}
    (hgen : e.rules.generate project.text e.idPrefix u = .ok reference) :
    e.description reference source destinations = e.wanted project source destinations u := by
  rcases e.rules.generate_cases project.text e.idPrefix u with ⟨cause, hcause⟩ | hdrawn
  · rw [hgen] at hcause
    cases hcause
  · rw [hgen] at hdrawn
    cases hdrawn
    exact description_eq_wanted u

/-- An export with an id drawn goes on to ask for the job under that id. -/
theorem run_goes_iff (hd : destinations ≠ []) {u : Uuid} {reference : JobReference}
    (hgen : e.rules.generate project.text e.idPrefix u = .ok reference) :
    (e.run rounds project source destinations wait watcher.onTick).Goes (drawTurn u :: ts) q ↔
      (e.carryOut rounds project (e.wanted project source destinations u) wait watcher).Goes
        ts q := by
  rw [run_eq hd, ← description_of_generate hgen]
  constructor
  · intro h
    cases h with
    | turn h => simpa only [Program.bind, hgen] using h
  · intro h
    refine .turn ?_
    simpa only [Program.bind, hgen] using h

theorem run_of_refused (hd : destinations ≠ []) {u : Uuid} {fault : Fault}
    (hgen : e.rules.generate project.text e.idPrefix u = .error fault)
    (h : (e.run rounds project source destinations wait watcher.onTick).Goes (drawTurn u :: ts) q) :
    ts = [] ∧ q = done (.error fault) := by
  rw [run_eq hd] at h
  cases h with
  | turn h =>
    simp only [Program.bind, hgen] at h
    cases h
    exact ⟨rfl, rfl⟩

theorem noted_told (hd : destinations ≠ []) {u : Uuid} {reference : JobReference}
    (hgen : e.rules.generate project.text e.idPrefix u = .ok reference) :
    Told project (e.wanted project source destinations u) wait (drawTurn u)
      (e.noted rounds project source destinations wait watcher) := by
  have hid : (e.wanted project source destinations u).reference.id.text.isEmpty = false :=
    newId_ne_empty _ _
  have hgoes : ∀ {ts q}, (e.noted rounds project source destinations wait watcher).Goes
      (drawTurn u :: ts) q ↔ (e.carryOut rounds project (e.wanted project source destinations u)
        wait watcher.noted).Goes ts q := run_goes_iff hd hgen
  refine ⟨fun started => ?_, fun ts q h => carryOut_asked hid (hgoes.mp h),
    fun ts result h => tells_of_carryOut hid (hgoes.mp h), ?_⟩
  · obtain ⟨next, h⟩ : (e.carryOut rounds project (e.wanted project source destinations u) wait
        watcher.noted).AsksAfter [nowTurn started] (.create project _) := by
      unfold carryOut
      rw [Submission.submit_creates hid]
      exact Work.asksAfter_now asksAfter_ask
    exact ⟨next, hgoes.mpr h⟩
  · rintro rfl started us accepted vs t finished q hsubmit hended h
    exact carryOut_concludes hid hsubmit hended (hgoes.mp h)

/-- An export that does not wait ends after six requests at most. -/
theorem noted_endsWithin :
    (e.noted rounds project source destinations false watcher).EndsWithin 6 := by
  unfold noted
  cases hd : destinations with
  | nil => trivial
  | cons destination destinations =>
    rw [run_eq (List.cons_ne_nil _ _)]
    intro (u : Uuid)
    rcases e.rules.generate_cases project.text e.idPrefix u with ⟨cause, hgen⟩ | hgen
    · simp only [Program.bind, hgen]
      trivial
    · simp only [Program.bind, hgen]
      refine carryOut_endsWithin ?_
      rw [description_eq_wanted]
      exact newId_ne_empty _ _

end Exporter

open Exporter in
/-- The outcome of an export tells how far it got. Without a destination the export fails before
it asks for anything, and so it does when no id can be made of what was drawn. Otherwise the job
described is asked for exactly once. The export then ends with the result that `Tells` accounts
for: at once with the handle of the submission, if it does not wait; else well only if the job
was seen to be done, with a fault of the execution only if it was seen to fail, and with a fault
of a look, or called off, only after the job was accepted. -/
theorem outcome_of_export_tells_how_far_it_got (e : Exporter) (rounds : Nat) (project : ProjectId)
    (source : TableReference) (destinations : List Destination) (wait : Bool)
    (watcher : Watcher) :
    (destinations = [] → e.noted rounds project source destinations wait watcher =
      done (.error (.argument .noDestination))) ∧
    (destinations ≠ [] →
      (e.noted rounds project source destinations wait watcher).AsksAfter [] (.locally .draw) ∧
      ∀ u,
        (∀ fault, e.rules.generate project.text e.idPrefix u = .error fault →
          (∃ cause, fault = .argument cause) ∧ ∀ ts q,
            (e.noted rounds project source destinations wait watcher).Goes (drawTurn u :: ts) q →
              ts = [] ∧ q = done (.error fault)) ∧
        (∀ reference, e.rules.generate project.text e.idPrefix u = .ok reference →
          Told project (e.wanted project source destinations u) wait (drawTurn u)
            (e.noted rounds project source destinations wait watcher))) ∧
    (wait = false → (e.noted rounds project source destinations wait watcher).EndsWithin 6) := by
  refine ⟨?_, fun hd => ⟨?_, fun u => ⟨fun fault hgen => ⟨?_, ?_⟩, ?_⟩⟩, ?_⟩
  · rintro rfl
    rfl
  · unfold noted
    rw [run_eq hd]
    exact asksAfter_ask
  · rcases e.rules.generate_cases project.text e.idPrefix u with ⟨cause, hcause⟩ | hdrawn
    · rw [hgen] at hcause
      cases hcause
      exact ⟨cause, rfl⟩
    · rw [hgen] at hdrawn
      cases hdrawn
  · exact fun ts q h => run_of_refused hd hgen h
  · exact fun reference hgen => noted_told hd hgen
  · rintro rfl
    exact noted_endsWithin

end WarehouseJobs
