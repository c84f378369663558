-- Where the looks of an export search for its job. The location of the settings goes with the
-- reference that the job is asked for under, and so with the look-up of a duplicate. Once a job is
-- accepted, the export goes by the reference that the service gave it, whatever that leaves out.
import WarehouseJobs.Proofs.Export.Outcome

namespace WarehouseJobs

open Program

/-! ## Submissions that are over -/

namespace Submission

variable {project : ProjectId} {job : JobDescription} {ts us vs : List (Turn WorkSignature)}
  {handle : JobHandle} {request : WorkRequest}

/-- In these turns a submission has ended with this handle. -/
def Accepted (project : ProjectId) (job : JobDescription) (ts : List (Turn WorkSignature))
    (handle : JobHandle) : Prop :=
  ∃ us vs, ts = us ++ vs ∧ (submit project job).Ends us (.ok handle)

theorem Accepted.unique {other : JobHandle} (h : Accepted project job ts handle)
    (h' : Accepted project job ts other) : handle = other := by
  obtain ⟨us, vs, rfl, hends⟩ := h
  obtain ⟨us', vs', hts, hends'⟩ := h'
  cases (hends.unique hends' hts).2
  rfl

/-- The handle of a submission is one that the service answered with. -/
theorem Accepted.answered (h : Accepted project job ts handle) :
    Answered job.reference ts handle := by
  obtain ⟨us, vs, rfl, hends⟩ := h
  rcases (submit_minds project job []).goes hends with ⟨-, hfair⟩ | ⟨actual, -, hmismatch⟩
  · exact Answered.append hfair
  · cases hmismatch

/-- The first request of a submission is its create, and the other one is a look-up. -/
def Asked (project : ProjectId) (job : JobDescription) (request : WorkRequest) : Prop :=
  request = .create project job ∨ LooksUnder project job.reference request

theorem submit_asksOnly (hid : job.reference.id.text.isEmpty = false) :
    (submit project job).AsksOnly (Asked project job) := by
  rw [submit_creates hid]
  refine ⟨.inl rfl, fun answer => ?_⟩
  exact ((afterCreate_asksOnly answer).mono fun _ => .inr).bind fun _ => trivial

end Submission

/-! ## Looks of an export -/

/-- The answer that the wait may go on. -/
def signalTurn (value : Bool) : Turn WorkSignature := ⟨.locally .signal, value⟩

namespace Exporter

open Submission

variable {e : Exporter} {rounds : Nat} {project : ProjectId} {source : TableReference}
  {destinations : List Destination} {wait : Bool} {watcher : Watcher} {started : Nanos}
  {job : JobDescription} {ts us : List (Turn WorkSignature)} {handle : JobHandle}
  {project' : ProjectId} {id : JobId} {location : Option String}

/-- An export that has its id looks under its own reference before its job is accepted, and under
that of the service from then on. -/
theorem carryOut_looks (hid : job.reference.id.text.isEmpty = false)
    (h : (e.carryOut rounds project job wait watcher).AsksAfter ts (.get project' id location)) :
    ∃ started rest, ts = nowTurn started :: rest ∧
      ((∀ accepted, ¬ Accepted project job rest accepted) ∧
          LooksUnder project job.reference (.get project' id location) ∨
        ∃ accepted, Accepted project job rest accepted ∧
          LooksUnder project accepted.reference (.get project' id location)) := by
  obtain ⟨next, hgoes⟩ := h
  unfold carryOut at hgoes
  cases hgoes with
  | @turn _ _ started rest _ hgoes =>
    refine ⟨started, rest, rfl, ?_⟩
    have hask : (submit project job >>= _).AsksAfter rest (.get project' id location) :=
      ⟨next, hgoes⟩
    rcases asksAfter_of_bind hask with hask | ⟨us, submitted, vs, rfl, hends, hask⟩
    · refine .inl ⟨?_, ((submit_asksOnly hid).asksAfter hask).resolve_left nofun⟩
      rintro accepted ⟨us, vs, rfl, hends⟩
      exact hends.not_asksAfter hask
    · cases submitted with
      | error fault =>
        obtain ⟨next, hgoes⟩ := hask
        cases hgoes
      | ok accepted =>
        exact .inr ⟨accepted, ⟨us, vs, rfl, hends⟩, followUp_asksOnly.asksAfter hask⟩

/-- The first look of a wait. -/
theorem await_first_look : (e.await (rounds + 1) project started handle watcher.onTick).AsksAfter
    [signalTurn false] (.get project handle.reference.id handle.reference.location) := by
  unfold await Waiting.awaitCompletion
  rw [Waiting.awaitFrom, Waiting.fetchStatus_eq]
  exact asksAfter_ask.turn

theorem carryOut_first_look (hends : (submit project job).Ends us (.ok handle)) (started : Nanos) :
    (e.carryOut (rounds + 1) project job true watcher).AsksAfter
      (nowTurn started :: (us ++ [logTurn (submittedEvent project handle job.task),
        signalTurn false]))
      (.get project handle.reference.id handle.reference.location) := by
  unfold carryOut
  refine Work.asksAfter_now (hends.asksAfter_bind ?_)
  exact await_first_look.turn

/-- Where an export that is about to look at its job in these turns, and that asked for `job` after
it drew its id, searches for it. -/
structure Searches (e : Exporter) (project : ProjectId) (job : JobDescription)
    (ts : List (Turn WorkSignature)) (location : Option String) : Prop where
  before : (∀ accepted, ¬ Accepted project job ts accepted) → location = e.location
  after : ∀ accepted, Accepted project job ts accepted →
    Answered job.reference ts accepted ∧ location = accepted.reference.location
  dropped_iff : ∀ configured, e.location = some configured →
    (location = none ↔ ∃ accepted, Accepted project job ts accepted ∧
      accepted.reference.location = none)

theorem searches_of_looks (hjob : job.reference.location = e.location)
    (h : (∀ accepted, ¬ Accepted project job ts accepted) ∧
        LooksUnder project job.reference (.get project' id location) ∨
      ∃ accepted, Accepted project job ts accepted ∧
        LooksUnder project accepted.reference (.get project' id location)) :
    Searches e project job ts location := by
  rcases h with ⟨hnone, -, -, hlocation⟩ | ⟨accepted, haccepted, -, -, hlocation⟩
  · refine ⟨fun _ => hlocation.trans hjob, fun accepted h => absurd h (hnone accepted),
      fun configured hconfigured => ⟨fun hdropped => ?_, ?_⟩⟩
    · rw [hlocation, hjob, hconfigured] at hdropped
      cases hdropped
    · rintro ⟨accepted, h, -⟩
      exact absurd h (hnone accepted)
  · refine ⟨fun hnone => absurd haccepted (hnone accepted), fun other h => ?_,
      fun _ _ => ⟨fun hdropped => ⟨accepted, haccepted, hlocation ▸ hdropped⟩, ?_⟩⟩
    · rw [h.unique haccepted]
      exact ⟨haccepted.answered, hlocation⟩
    · rintro ⟨other, h, hother⟩
      rw [hlocation, ← h.unique haccepted, hother]

/-- An export looks at a job only after it has drawn the id of it. -/
theorem run_looks
    (h : (e.run rounds project source destinations wait watcher.onTick).AsksAfter ts
      (.get project' id location)) :
    ∃ u rest, ts = drawTurn u :: rest ∧
      (e.carryOut rounds project (e.wanted project source destinations u) wait watcher).AsksAfter
        rest (.get project' id location) := by
  obtain ⟨next, hgoes⟩ := h
  by_cases hd : destinations = []
  · subst hd
    cases hgoes
  · have hdrawn : ∃ u rest, ts = drawTurn u :: rest := by
      rw [run_eq hd] at hgoes
      cases hgoes with
      | turn h => exact ⟨_, _, rfl⟩
    obtain ⟨u, rest, rfl⟩ := hdrawn
    refine ⟨u, rest, rfl, next, ?_⟩
    cases hgen : e.rules.generate project.text e.idPrefix u with
    | error fault =>
      obtain ⟨-, hdone⟩ := run_of_refused hd hgen hgoes
      cases hdone
    | ok reference => exact (run_goes_iff hd hgen).mp hgoes

end Exporter

open Submission Exporter in
/-- The location of the settings goes with each look of an export until its job is accepted, and
then it is forgotten: from there on each look searches where the handle of the submission says,
which is one that the service answered with, and nowhere in particular if that handle leaves the
location out. So a configured location is dropped from the looks exactly if the service was silent
about it, and then a wait drops it from its first look on. -/
theorem looks_search_where_service_said (e : Exporter) (rounds : Nat) (project : ProjectId)
    (source : TableReference) (destinations : List Destination) (watcher : Watcher) :
    (∀ s, Exporter.ofSettings s = .ok e → e.location = s.service.location) ∧
    (∀ wait ts project' id location,
      (e.run rounds project source destinations wait watcher.onTick).AsksAfter ts
        (.get project' id location) →
      ∃ u started rest, ts = drawTurn u :: nowTurn started :: rest ∧
        Searches e project (e.wanted project source destinations u) rest location) ∧
    (∀ u reference started us accepted, destinations ≠ [] →
      e.rules.generate project.text e.idPrefix u = .ok reference →
      (submit project (e.wanted project source destinations u)).Ends us (.ok accepted) →
      (e.run (rounds + 1) project source destinations true watcher.onTick).AsksAfter
        (drawTurn u :: nowTurn started ::
          (us ++ [logTurn (submittedEvent project accepted (e.wanted project source destinations u).task),
            signalTurn false]))
        (.get project accepted.reference.id accepted.reference.location)) := by
  refine ⟨fun s he => ?_, fun wait ts project' id location h => ?_,
    fun u reference started us accepted hd hgen hends => ?_⟩
  · unfold Exporter.ofSettings at he
    split at he <;> cases he
    rfl
  · obtain ⟨u, rest, rfl, hrest⟩ := run_looks h
    have hid : (e.wanted project source destinations u).reference.id.text.isEmpty = false :=
      newId_ne_empty _ _
    obtain ⟨started, rest, rfl, hlooks⟩ := carryOut_looks hid hrest
    exact ⟨u, started, rest, rfl, searches_of_looks rfl hlooks⟩
  · obtain ⟨next, hgoes⟩ : (e.carryOut (rounds + 1) project (e.wanted project source destinations u)
        true watcher).AsksAfter _ _ := carryOut_first_look hends started
    exact ⟨next, (run_goes_iff hd hgen).mpr hgoes⟩

/-! ## A location that is lost -/

/-- Settings whose look-ups are to search in Europe, and all else as by default. -/
def european : Settings := { service := { location := some "EU" } }

/-- Nobody is told of the looks. -/
def nobody : Watcher where
  onTick _ := .done ()
  aloof _ := trivial

/-- The service has accepted a job, and does not say where it is. -/
def silent (job : JobReference) : JobHandle :=
  { reference := { job with location := none }, state := .pending }

/-- Whatever the location of its settings, an export whose job is accepted in silence looks for it
without a location. -/
theorem Exporter.looks_nowhere_after_silence {e : Exporter} {rounds : Nat} {project : ProjectId}
    {source : TableReference} {destinations : List Destination} {watcher : Watcher} {u : Uuid}
    {reference : JobReference} (hd : destinations ≠ [])
    (hgen : e.rules.generate project.text e.idPrefix u = .ok reference) :
    ∃ ts, (e.run (rounds + 1) project source destinations true watcher.onTick).AsksAfter ts
      (.get project ⟨newId e.idPrefix u⟩ none) := by
  have hcourse : Submission.Course project (e.wanted project source destinations u) _ _ :=
    .created (JobReference.sameJob_refl (silent (e.asked project u)).reference)
  have hsubmit := Submission.submit_ends_iff.mpr ⟨_, hcourse.ends (newId_ne_empty _ _), rfl⟩
  obtain ⟨next, hgoes⟩ : (e.carryOut (rounds + 1) project (e.wanted project source destinations u)
    true watcher).AsksAfter _ _ := Exporter.carryOut_first_look hsubmit (0 : Nat)
  exact ⟨_, next, (Exporter.run_goes_iff hd hgen).mpr hgoes⟩

theorem european_ids_pass : european.jobs.check = .ok () := by
  have hok : european.jobs.check.isOk = true := by decide +kernel
  cases hcheck : european.jobs.check with
  | ok => rfl
  | error fault =>
    rw [hcheck] at hok
    cases hok

/-- Under these settings, a service that accepts a job without a word about its location is asked
for the job without a location from the first look on. -/
theorem silent_service_is_asked_without_location :
    european.service.location = some "EU" ∧
    ∃ e, Exporter.ofSettings european = .ok e ∧
      ∃ ts, (e.run 1 ⟨"demo"⟩ ⟨"demo", "sales", "orders"⟩ [⟨"gs://demo/orders.csv", "demo"⟩] true
        nobody.onTick).AsksAfter ts
          (.get ⟨"demo"⟩ ⟨newId "direct-export" .zero⟩ none) := by
  obtain ⟨e, pattern, he, hfollows⟩ := Exporter.follows_of_check european_ids_pass
  have hsample : pattern.isIn (newId european.jobs.exportPrefix .zero) = true := by
    rw [← sample_eq]
    exact hfollows.checked.sampleFits
  have hgen : e.rules.generate "demo" e.idPrefix .zero =
      .ok { project := ⟨"demo"⟩, id := ⟨newId e.idPrefix .zero⟩ } :=
    hfollows.generates (by decide) (hfollows.issues_iff.mpr ⟨by decide, hsample⟩)
  refine ⟨rfl, e, he, ?_⟩
  have hid : newId "direct-export" .zero = newId e.idPrefix .zero := by
    rw [hfollows.idPrefix]
    rfl
  rw [hid]
  exact Exporter.looks_nowhere_after_silence (List.cons_ne_nil _ _) hgen

end WarehouseJobs
