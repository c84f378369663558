-- Submitters of one job that race for its id. However their requests come, the first create
-- makes the job; every other submitter is told that the id is taken, and finds the job.
import WarehouseJobs.Proofs.Faults
import WarehouseJobs.Proofs.Programs.Keepers
import WarehouseJobs.Proofs.Submission.Courses

namespace WarehouseJobs.Submission

open Program

/-! ## Services that keep jobs apart -/

/-- For the requests that a submission makes, the id of the job is a key: only the first
create under it makes a job, later ones fail with a conflict, and a look-up finds the job. -/
structure Deduplicates (K : Keeper WorkSignature) (project : ProjectId) (job : JobDescription) :
    Prop where
  willing : K.Willing
  create_new : ∀ {s answer s'}, ¬ K.Holds s job.reference →
    K.Answers s (.create project job) answer s' →
    (∃ handle : JobHandle, answer = .ok handle ∧
      job.reference.sameJob handle.reference = true) ∧ K.OneMore s s' job.reference
  create_again : ∀ {s answer s'}, K.Holds s job.reference →
    K.Answers s (.create project job) answer s' →
    (∃ fault : RemoteFault, answer = .error fault ∧ fault.status = some 409) ∧ K.SameJobs s s'
  get_held : ∀ {s answer s'}, K.Holds s job.reference →
    K.Answers s (.get project job.reference.id job.reference.location) answer s' →
    (∃ handle : JobHandle, answer = .ok handle ∧
      job.reference.sameJob handle.reference = true) ∧ K.SameJobs s s'
  locally : ∀ {s r answer s'}, K.Answers s (.locally r) answer s' → K.SameJobs s s'

/-! ### A shelf -/

/-- A service that puts each job on a shelf, and looks there for its identity. -/
def shelve (shelf : List JobReference) : (r : WorkRequest) → r.Answer × List JobReference
  | .create _ job =>
    if shelf.any fun x => x.sameJob job.reference then (.error (.ofStatus 409 "taken"), shelf)
    else (.ok { reference := job.reference, state := .pending }, job.reference :: shelf)
  | .get project id location =>
    let wanted : JobReference := { project, id, location }
    if shelf.any fun x => x.sameJob wanted then
      (.ok { reference := wanted, state := .running }, shelf)
    else (.error (.ofStatus 404 "missing"), shelf)
  | .table _ => (.error (.ofStatus 404 "missing"), shelf)
  | .locally r => (r.quiet, shelf)

def shelf : Keeper WorkSignature where
  State := List JobReference
  Answers s r answer s' := shelve s r = (answer, s')
  jobs s := s

theorem shelf_holds_iff {s : shelf.State} {r : JobReference} :
    shelf.Holds s r ↔ ((shelf.jobs s).any fun x => x.sameJob r) = true := by
  rw [List.any_eq_true]
  exact Iff.rfl

theorem shelf_deduplicates (job : JobDescription) :
    Deduplicates shelf job.reference.project job where
  willing s r := ⟨(shelve s r).1, (shelve s r).2, rfl⟩
  create_new := by
    intro s answer s' hs h
    have hnone := mt shelf_holds_iff.mpr hs
    obtain ⟨rfl, rfl⟩ := Prod.mk.inj ((if_neg hnone).symm.trans h)
    exact ⟨⟨_, rfl, JobReference.sameJob_refl _⟩, job.reference, JobReference.sameJob_refl _,
      List.Perm.refl _⟩
  create_again := by
    intro s answer s' hs h
    have hsome := shelf_holds_iff.mp hs
    obtain ⟨rfl, rfl⟩ := Prod.mk.inj ((if_pos hsome).symm.trans h)
    exact ⟨⟨_, rfl, rfl⟩, .refl s⟩
  get_held := by
    intro s answer s' hs h
    have hsome := shelf_holds_iff.mp hs
    obtain ⟨rfl, rfl⟩ := Prod.mk.inj ((if_pos hsome).symm.trans h)
    exact ⟨⟨_, rfl, JobReference.sameJob_refl _⟩, .refl s⟩
  locally := by
    intro s r answer s' h
    obtain ⟨-, rfl⟩ := Prod.mk.inj h
    exact .refl s

/-! ## What a submission asks, and how a service answers that holds the job -/

/-- A request that a submission makes. -/
def Asks (project : ProjectId) (job : JobDescription) : WorkRequest → Prop
  | .create p j => p = project ∧ j = job
  | .get p id location =>
    p = project ∧ id = job.reference.id ∧ location = job.reference.location
  | .table _ => False
  | .locally _ => True

/-- A turn with a service that holds the job: a create is refused, a look-up is not. -/
def Known (job : JobDescription) : Turn WorkSignature → Prop
  | ⟨.create _ _, answer⟩ =>
    ∃ fault : RemoteFault, answer = .error fault ∧ fault.status = some 409
  | ⟨.get _ _ _, answer⟩ =>
    ∃ handle : JobHandle, answer = .ok handle ∧
      job.reference.sameJob handle.reference = true
  | _ => True

variable {project : ProjectId} {job : JobDescription}

theorem Course.asks {ts : List (Turn WorkSignature)} {result : Except Fault SubmitOutcome}
    (h : Course project job ts result) : ∀ t ∈ ts, Asks project job t.request := by
  cases h with
  | _ => simp [createTurn, lookupTurn, logTurn, Asks]

/-- Every course begins with the create, and has no other. -/
theorem Course.create_first {ts : List (Turn WorkSignature)}
    {result : Except Fault SubmitOutcome} (h : Course project job ts result) :
    ∃ answer rest, ts = createTurn project job answer :: rest ∧ ts.countP isCreate = 1 := by
  cases h with
  | _ => exact ⟨_, _, rfl, rfl⟩

/-- A submission succeeds. It looked the job up only if it had to, as a duplicate. -/
def Succeeds (job : JobDescription) (duplicate : Bool) (ts : List (Turn WorkSignature))
    (result : Except Fault SubmitOutcome) : Prop :=
  ∃ outcome : SubmitOutcome, result = .ok outcome ∧ outcome.isDuplicate = duplicate ∧
    job.reference.sameJob outcome.handle.reference = true ∧ ts.countP isGet = duplicate.toNat

/-- A submitter who only meets a service that holds the job ends with a duplicate. -/
theorem Course.duplicate_of_known {ts : List (Turn WorkSignature)}
    {result : Except Fault SubmitOutcome} (h : Course project job ts result)
    (hk : ∀ t ∈ ts, Known job t) : Succeeds job true ts result := by
  cases h with
  | created _ =>
    obtain ⟨fault, hf, _⟩ := hk _ List.mem_cons_self
    cases hf
  | foreign _ =>
    obtain ⟨fault, hf, _⟩ := hk _ List.mem_cons_self
    cases hf
  | rejected hc =>
    obtain ⟨fault, hf, hs⟩ := hk _ List.mem_cons_self
    cases hf
    exact absurd (RemoteFault.classify_of_conflict hs) hc
  | duplicate _ same => exact ⟨_, rfl, rfl, same, rfl⟩
  | @foreignDuplicate _ found _ other =>
    obtain ⟨handle, hh, same⟩ := hk (lookupTurn project job (.ok found)) (by simp)
    cases hh
    exact absurd same (by simp [other])
  | @lookupFailed _ failure _ =>
    obtain ⟨handle, hh, _⟩ := hk (lookupTurn project job (.error failure)) (by simp)
    cases hh

/-- A submitter whose create makes the job looks nothing up. -/
theorem Course.created_of_ok {rest : List (Turn WorkSignature)} {handle : JobHandle}
    {result : Except Fault SubmitOutcome}
    (h : Course project job (createTurn project job (.ok handle) :: rest) result)
    (same : job.reference.sameJob handle.reference = true) :
    Succeeds job false (createTurn project job (.ok handle) :: rest) result := by
  cases h with
  | created _ => exact ⟨_, rfl, rfl, same, rfl⟩
  | foreign other => exact absurd same (by simp [other])

/-! ## The service -/

/-- A service that holds the job answers what a submission asks as such a service does. -/
theorem Deduplicates.known {K : Keeper WorkSignature} (hd : Deduplicates K project job)
    {s s' : K.State} {t : Turn WorkSignature} (ha : Asks project job t.request)
    (hs : K.Holds s job.reference) (h : K.Answers s t.request t.answer s') :
    Known job t ∧ K.SameJobs s s' := by
  obtain ⟨r, answer⟩ := t
  cases r with
  | create p j =>
    obtain ⟨rfl, rfl⟩ := ha
    exact hd.create_again hs h
  | get p id location =>
    obtain ⟨rfl, rfl, rfl⟩ := ha
    exact hd.get_held hs h
  | table r => exact ha.elim
  | locally r => exact ⟨trivial, hd.locally h⟩

/-! ## The race -/

open Crew

variable {K : Keeper WorkSignature} {n : Nat}

/-- Submitters of one job who have not begun yet. -/
def racers (K : Keeper WorkSignature) (project : ProjectId) (job : JobDescription) (n : Nat)
    (s : K.State) : Crew K.toResponder n (Except Fault SubmitOutcome) :=
  ⟨fun _ => submitClassified project job, s⟩

variable {s : K.State} {ts : List (Fin n × Turn WorkSignature)}
  {results : Fin n → Except Fault SubmitOutcome}

theorem asks_of_courses (h : ∀ i, Course project job (turnsOf i ts) (results i)) :
    ∀ t ∈ ts.map Prod.snd, Asks project job t.request :=
  forall_turns_iff.mpr fun i => (h i).asks

theorem creates_of_courses (h : ∀ i, Course project job (turnsOf i ts) (results i)) :
    (ts.map Prod.snd).countP isCreate = n := by
  rw [countP_eq_sum]
  have hone : ∀ i, (turnsOf i ts).countP isCreate = 1 := fun i => by
    obtain ⟨_, _, _, h1⟩ := (h i).create_first
    exact h1
  simp [hone]

/-- If there is no job at first, the one whose create comes first makes it. -/
theorem race_from_absent (hd : Deduplicates K project job) (hn : 0 < n) {s' : K.State}
    (hserves : K.Serves s (ts.map Prod.snd) s')
    (h : ∀ i, Course project job (turnsOf i ts) (results i))
    (hs : ¬ K.Holds s job.reference) :
    K.OneMore s s' job.reference ∧
      ∃ i₀, ∀ i, Succeeds job (decide (i ≠ i₀)) (turnsOf i ts) (results i) := by
  have hasks := asks_of_courses h
  cases ts with
  | nil =>
    obtain ⟨_, _, hts, _⟩ := (h ⟨0, hn⟩).create_first
    cases hts
  | cons x us =>
    obtain ⟨i₀, t⟩ := x
    -- The first turn of all is the first turn of somebody, and that is a create.
    have hfirst := h i₀
    rw [turnsOf_cons_self] at hfirst
    obtain ⟨answer, _, hts, _⟩ := hfirst.create_first
    obtain ⟨rfl, -⟩ := List.cons.inj hts
    cases hserves with
    | cons hans hrest =>
      obtain ⟨⟨handle, rfl, same⟩, hmore⟩ := hd.create_new hs hans
      obtain ⟨hknown, hsame⟩ := Keeper.serves_known hd.known hrest hmore.holds
        fun t ht => hasks t (List.mem_cons_of_mem _ ht)
      refine ⟨hmore.trans hsame, i₀, fun i => ?_⟩
      by_cases hi : i = i₀
      · subst hi
        rw [turnsOf_cons_self, decide_eq_false (not_not.mpr rfl)]
        exact hfirst.created_of_ok same
      · have hcourse := h i
        rw [turnsOf_cons_ne (Ne.symm hi)] at hcourse ⊢
        rw [decide_eq_true hi]
        exact hcourse.duplicate_of_known (forall_turns_iff.mp hknown i)

/-- If the job is there at first, everybody finds it. -/
theorem race_from_present (hd : Deduplicates K project job) {s' : K.State}
    (hserves : K.Serves s (ts.map Prod.snd) s')
    (h : ∀ i, Course project job (turnsOf i ts) (results i)) (hs : K.Holds s job.reference) :
    K.SameJobs s s' ∧ ∀ i, Succeeds job true (turnsOf i ts) (results i) := by
  obtain ⟨hknown, hsame⟩ := Keeper.serves_known hd.known hserves hs (asks_of_courses h)
  exact ⟨hsame, fun i => (h i).duplicate_of_known (forall_turns_iff.mp hknown i)⟩

/-- All but one of them looked the job up. -/
theorem sum_others (i₀ : Fin n) : ∑ i, (decide (i ≠ i₀)).toNat = n - 1 := by
  calc ∑ i, (decide (i ≠ i₀)).toNat = ∑ i, if i = i₀ then 0 else 1 :=
        Finset.sum_congr rfl fun i _ => by by_cases hi : i = i₀ <;> simp [hi]
    _ = n - 1 := by simp [Finset.sum_ite, Finset.filter_ne', Finset.card_erase_of_mem]

/-- Racing submissions of one job all succeed, whatever the order of their requests, and the
job exists once. If it was not there, one of them created it and the others found it. -/
theorem racing_submissions_make_one_job (hid : job.reference.id.text.isEmpty = false)
    (hd : Deduplicates K project job) (hn : 0 < n) (s : K.State) :
    (∀ ts c', (racers K project job n s).Steps ts c' → ts.length ≤ n * 3) ∧
    ∀ ts c', (racers K project job n s).Steps ts c' → c'.Resting →
      ∃ outcomes : Fin n → SubmitOutcome,
        (∀ i, c'.programs i = .done (.ok (outcomes i)) ∧
          (outcomes i).handle.reference.project = job.reference.project ∧
          (outcomes i).handle.reference.id = job.reference.id) ∧
        (ts.map Prod.snd).countP isCreate = n ∧
        (¬ K.Holds s job.reference →
          (∃ i₀, ∀ i, (outcomes i).isDuplicate = false ↔ i = i₀) ∧
          (ts.map Prod.snd).countP isGet = n - 1 ∧ K.OneMore s c'.state job.reference) ∧
        (K.Holds s job.reference →
          (∀ i, (outcomes i).isDuplicate = true) ∧
          (ts.map Prod.snd).countP isGet = n ∧ K.SameJobs s c'.state) := by
  have hends : ∀ i, ((racers K project job n s).programs i).EndsWithin 3 :=
    fun _ => submitClassified_endsWithin hid
  refine ⟨fun ts c' h => h.length_le hends, fun ts c' h hr => ?_⟩
  obtain ⟨results, hresults⟩ := h.all_end hends hd.willing hr
  have hcourse : ∀ i, Course project job (turnsOf i ts) (results i) :=
    fun i => course_of_ends hid (hresults i).2
  by_cases hs : K.Holds s job.reference
  · obtain ⟨hkept, hall⟩ := race_from_present hd h.serves hcourse hs
    choose outcomes houtcome hduplicate hsame hgets using hall
    refine ⟨outcomes, fun i => ⟨?_, names_of_same (hsame i)⟩, creates_of_courses hcourse,
      fun habsent => absurd hs habsent, fun _ => ⟨hduplicate, ?_, hkept⟩⟩
    · rw [(hresults i).1, houtcome i]
    · rw [countP_eq_sum, Finset.sum_congr rfl fun i _ => hgets i]
      simp
  · obtain ⟨hmore, i₀, hall⟩ := race_from_absent hd hn h.serves hcourse hs
    choose outcomes houtcome hduplicate hsame hgets using hall
    refine ⟨outcomes, fun i => ⟨?_, names_of_same (hsame i)⟩, creates_of_courses hcourse,
      fun _ => ⟨⟨i₀, fun i => ?_⟩, ?_, hmore⟩, fun hheld => absurd hheld hs⟩
    · rw [(hresults i).1, houtcome i]
    · rw [hduplicate i]
      simp
    · rw [countP_eq_sum, Finset.sum_congr rfl fun i _ => hgets i, sum_others]

theorem two_submitters_make_one_job :
    nightly.reference.id.text.isEmpty = false ∧
    Deduplicates shelf nightly.reference.project nightly ∧ ¬ shelf.Holds [] nightly.reference ∧
    ∀ ts c', (racers shelf nightly.reference.project nightly 2 []).Steps ts c' → c'.Resting →
      ∃ outcomes : Fin 2 → SubmitOutcome, (∀ i, c'.programs i = .done (.ok (outcomes i))) ∧
        ∃ i₀, ∀ i, (outcomes i).isDuplicate = false ↔ i = i₀ := by
  have hempty : ¬ shelf.Holds [] nightly.reference := by simp [Keeper.Holds, shelf]
  refine ⟨by decide, shelf_deduplicates nightly, hempty, fun ts c' h hr => ?_⟩
  obtain ⟨outcomes, hall, _, habsent, _⟩ :=
    (racing_submissions_make_one_job (by decide) (shelf_deduplicates nightly) (by decide) []).2
      ts c' h hr
  exact ⟨outcomes, fun i => (hall i).1, (habsent hempty).1⟩

end WarehouseJobs.Submission
