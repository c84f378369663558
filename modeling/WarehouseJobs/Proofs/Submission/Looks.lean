-- Looks at a job. A submission that meets a duplicate takes one, and a wait takes one after
-- the other; both take the answer the same way.
import WarehouseJobs.Proofs.Programs.Runs
import WarehouseJobs.Waiting

namespace WarehouseJobs

/-- What the answer to a look at a job comes to. -/
def looked (stage : Stage) (reference : JobReference) :
    Except RemoteFault JobHandle → Except Fault JobHandle
  | .error cause => .error (.remote (cause.during stage))
  | .ok handle =>
    if reference.sameJob handle.reference then .ok handle
    else .error (.identity reference handle.reference)

theorem names_of_same {a b : JobReference} (h : a.sameJob b = true) :
    b.project = a.project ∧ b.id = a.id := by
  obtain ⟨hp, hi⟩ := JobReference.sameJob_iff.mp h
  exact ⟨hp.symm, hi.symm⟩

variable {stage : Stage} {reference : JobReference} {handle : JobHandle}

theorem looked_of_same (h : reference.sameJob handle.reference = true) :
    looked stage reference (.ok handle) = .ok handle := if_pos h

theorem looked_of_other (h : reference.sameJob handle.reference = false) :
    looked stage reference (.ok handle) = .error (.identity reference handle.reference) :=
  if_neg (by simp [h])

theorem looked_eq_ok {answer : Except RemoteFault JobHandle}
    (h : looked stage reference answer = .ok handle) :
    answer = .ok handle ∧ reference.sameJob handle.reference = true := by
  cases answer with
  | error cause => cases h
  | ok found =>
    cases hsame : reference.sameJob found.reference with
    | true =>
      rw [looked_of_same hsame] at h
      cases h
      exact ⟨rfl, hsame⟩
    | false =>
      rw [looked_of_other hsame] at h
      cases h

theorem checkIdentity_of_same {a b : JobReference} (h : a.sameJob b = true) :
    checkIdentity a b = .ok () := if_pos h

theorem checkIdentity_of_other {a b : JobReference} (h : a.sameJob b = false) :
    checkIdentity a b = .error (.identity a b) := if_neg (by simp [h])

theorem Waiting.fetchStatus_eq (project : ProjectId) (reference : JobReference) :
    fetchStatus project reference = (do
      let answer ← Work.get project reference.id reference.location
      pure (looked .polling reference answer)) := by
  unfold fetchStatus
  congr 1
  funext answer
  cases answer with
  | error cause => rfl
  | ok handle =>
    cases same : reference.sameJob handle.reference with
    | true => simp only [looked_of_same same, checkIdentity_of_same same]
    | false => simp only [looked_of_other same, checkIdentity_of_other same]

/-- In a world that pays no attention to what is logged, remarks change nothing. -/
theorem Waiting.runIn_logAll {W : Type} {answer : W → (r : WorkRequest) → r.Answer × W}
    (hlog : ∀ w event, answer w (.locally (.log event)) = ((), w)) (events : List LogEvent)
    (w : W) : Program.runIn (S := WorkSignature) answer (logAll events) w = (some (), w) := by
  induction events with
  | nil => rfl
  | cons event events ih =>
    have hevent : Program.runIn (S := WorkSignature) answer (Work.log event) w = (some (), w) :=
      Program.runIn_request (hlog w event)
    rw [logAll, Program.runIn_bind_of_some hevent, ih]

/-- The export of a table to one file, under the id `nightly`. -/
def nightly : JobDescription where
  reference := { project := ⟨"demo"⟩, id := ⟨"nightly"⟩ }
  task := .extract
    { source := { project := "demo", dataset := "sales", table := "orders" }
      destinations := [], format := .csv }

end WarehouseJobs
