-- What the reason of a fault counts for. It names the class where there is no status, or one that
-- only says that the request was refused. But a reason that speaks of a busy service counts beside
-- every status that decides nothing, whatever that status says.
import WarehouseJobs.Proofs.Http.Verdicts

namespace WarehouseJobs.RemoteFault

/-- The reason speaks of a busy service. -/
def saysBusy (reason : Option String) : Bool := reason.any fun r => busyReasons.contains r

/-- The fault says that the id is taken: by its status, or by its reason where there is no status,
or one that leaves it to the reason. -/
def SaysTaken (fault : RemoteFault) : Prop :=
  fault.status = some 409 ∨
    (fault.status = none ∨ fault.status = some 400 ∨ fault.status = some 403) ∧
      (fault.reason = some "duplicate" ∨ fault.reason = some "alreadyExists")

instance : DecidablePred SaysTaken := fun _ => inferInstanceAs (Decidable (_ ∨ _ ∧ _))

variable {status : UInt16} {reason : Option String} {message : String}

/-! ## Single reasons -/

/-- A reason that speaks of a busy service speaks of nothing else. -/
theorem classOfReason_of_busy {r : String} (h : r ∈ busyReasons) (status : Option UInt16) :
    classOfReason status r = .transient := by
  have hmissing : r ∉ missingReasons := by
    revert r
    decide
  have hduplicate : r ∉ duplicateReasons := by
    revert r
    decide
  simp [classOfReason, h, hmissing, hduplicate]

theorem classOfReason_eq_alreadyExists_iff {r : String} {status : Option UInt16} :
    classOfReason status r = .alreadyExists ↔ isGeneric status = true ∧ r ∈ duplicateReasons := by
  have hmissing : r ∈ missingReasons → r ∉ duplicateReasons := by
    revert r
    decide
  unfold classOfReason
  simp only [Bool.and_eq_true, List.contains_iff_mem]
  split
  · rename_i h
    simp [hmissing h.1]
  · split
    · rename_i h
      simp [h.1, h.2]
    · rename_i h
      have hnot : ¬ (isGeneric status = true ∧ r ∈ duplicateReasons) := fun ⟨hg, hr⟩ => h ⟨hr, hg⟩
      split <;> simp [hnot]

/-! ## Statuses and reasons together -/

theorem decided?_of_generic (h : isGeneric (some status) = true) : decided? status = none := by
  unfold isGeneric at h
  simp only [Bool.or_eq_true, beq_iff_eq] at h
  rcases h with rfl | rfl <;> decide

theorem decided?_eq_alreadyExists_iff : decided? status = some .alreadyExists ↔ status = 409 := by
  unfold decided?
  by_cases h404 : status = 404
  · subst h404
    decide
  · by_cases h409 : status = 409
    · simp [h409]
    · simp only [h404, h409, if_false, iff_false]
      split <;> simp

/-- Beside a status that is not generic, only a reason that speaks of a busy service counts, and
it counts if the status does not decide. -/
theorem classify_of_specific (h : isGeneric (some status) = false) :
    classify ⟨some status, reason, message⟩ =
      (decided? status).getD (if saysBusy reason then .transient else .fatal) := by
  rw [classify_eq]
  congr 1
  cases reason with
  | none => rfl
  | some r => simp [saysBusy, classOfReason, h]

/-- Wherever a status does not decide, it makes a difference whether the service calls itself
busy. -/
theorem busy_reason_counts (h : decided? status = none) (message : String) :
    classify ⟨some status, some "backendError", message⟩ = .transient ∧
      classify ⟨some status, none, message⟩ = .fatal := by
  have hbusy : "backendError" ∈ busyReasons := by decide
  rw [classify_eq, classify_eq, h]
  exact ⟨classOfReason_of_busy hbusy (some status), rfl⟩

theorem isGeneric_iff {status : Option UInt16} :
    isGeneric status = true ↔ status = none ∨ status = some 400 ∨ status = some 403 := by
  cases status <;> simp [isGeneric]

/-- Exactly the faults that say so have the class of an id that is taken. -/
theorem classify_eq_alreadyExists_iff (fault : RemoteFault) :
    fault.classify = .alreadyExists ↔ fault.SaysTaken := by
  obtain ⟨status, reason, message⟩ := fault
  have hreason : ∀ r, r ∈ duplicateReasons ↔ r = "duplicate" ∨ r = "alreadyExists" := by
    simp [duplicateReasons]
  unfold SaysTaken
  simp only [← isGeneric_iff]
  cases status with
  | none =>
    cases reason with
    | none => simp [classify]
    | some r => simp [classify, classOfReason_eq_alreadyExists_iff, hreason]
  | some status =>
    cases hgeneric : isGeneric (some status) with
    | true =>
      have hconflict : status ≠ 409 := by
        rintro rfl
        revert hgeneric
        decide
      rw [classify_eq, decided?_of_generic hgeneric]
      cases reason with
      | none => simp [hconflict]
      | some r => simp [hconflict, hgeneric, classOfReason_eq_alreadyExists_iff, hreason]
    | false =>
      rw [classify_of_specific hgeneric]
      simp only [Bool.false_eq_true, false_and, or_false, Option.some.injEq,
        ← decided?_eq_alreadyExists_iff]
      cases decided? status with
      | some verdict => simp
      | none => cases saysBusy reason <;> simp

/-! ## What counts, and where -/

/-- The message never counts. A reason counts beside exactly those statuses that do not decide;
and if such a status is not generic, two reasons make a difference exactly if one of them speaks
of a busy service and the other does not. -/
theorem reasons_count_beside_undecided_statuses (status : Option UInt16) :
    (∀ (reason : Option String) (message message' : String),
      classify ⟨status, reason, message⟩ = classify ⟨status, reason, message'⟩) ∧
    ∀ code, status = some code →
      ((∀ (reason reason' : Option String) (message message' : String),
        classify ⟨status, reason, message⟩ = classify ⟨status, reason', message'⟩) ↔
          (decided? code).isSome = true) ∧
      (isGeneric status = false → ∀ (reason reason' : Option String) (message message' : String),
        classify ⟨status, reason, message⟩ = classify ⟨status, reason', message'⟩ ↔
          (decided? code).isSome = true ∨ saysBusy reason = saysBusy reason') := by
  refine ⟨fun _ _ _ => rfl, ?_⟩
  rintro code rfl
  constructor
  · cases hdecided : decided? code with
    | some verdict => simp [classify_eq, hdecided]
    | none =>
      simp only [Option.isSome_none, Bool.false_eq_true, iff_false]
      intro hsame
      obtain ⟨hbusy, hfatal⟩ := busy_reason_counts hdecided ""
      rw [hsame _ none "" "", hfatal] at hbusy
      cases hbusy
  · intro hspecific reason reason' message message'
    rw [classify_of_specific hspecific, classify_of_specific hspecific]
    cases hdecided : decided? code with
    | some verdict => simp
    | none =>
      cases saysBusy reason <;> cases saysBusy reason' <;> simp

/-- Someone who may not use the service at all is told to try again, because of the reason. -/
theorem unauthorized_counts_as_busy :
    ¬ ∀ status : UInt16, isGeneric (some status) = false →
      ∀ (reason reason' : Option String) (message message' : String),
        classify ⟨some status, reason, message⟩ =
          classify ⟨some status, reason', message'⟩ := by
  intro h
  have hbusy : classify ⟨some 401, some "rateLimitExceeded", ""⟩ = .transient := by decide
  have hplain : classify ⟨some 401, none, ""⟩ = .fatal := by decide
  rw [h 401 (by decide) _ none "" "", hplain] at hbusy
  cases hbusy

end WarehouseJobs.RemoteFault
