-- Which faults are of which class, and when there is none, as far as the laws about programs
-- need it.
import WarehouseJobs.Fault

namespace WarehouseJobs

/-- The service was busy, or not to be reached. -/
def Busy {α : Type} (answer : Except RemoteFault α) : Prop :=
  ∃ cause : RemoteFault, answer = .error cause ∧ cause.classify = .transient

instance {α : Type} (answer : Except RemoteFault α) : Decidable (Busy answer) :=
  match answer with
  | .ok _ => .isFalse nofun
  | .error cause =>
    decidable_of_iff (cause.classify = .transient)
      ⟨fun h => ⟨cause, rfl, h⟩, fun ⟨_, h, hc⟩ => by cases h; exact hc⟩

theorem not_busy_ok {α : Type} (a : α) : ¬ Busy (.ok a : Except RemoteFault α) := nofun

@[simp] theorem busy_error_iff {α : Type} {cause : RemoteFault} :
    Busy (.error cause : Except RemoteFault α) ↔ cause.classify = .transient := by
  constructor
  · rintro ⟨_, h, hc⟩
    cases h
    exact hc
  · intro h
    exact ⟨cause, rfl, h⟩

/-- Whether a check passes can be evaluated, even where its faults cannot be compared. -/
theorem passes_of_isOk {ε : Type} {check : Except ε Unit} (h : check.isOk = true) :
    check = .ok () := by
  cases check with
  | ok => rfl
  | error fault => cases h

namespace RemoteFault

theorem classify_of_conflict {fault : RemoteFault} (h : fault.status = some 409) :
    fault.classify = .alreadyExists := by
  unfold classify
  rw [h]
  rfl

theorem mem_busyStatuses {status : UInt16} : status ∈ busyStatuses ↔
    status = 408 ∨ status = 429 ∨ status = 500 ∨ status = 502 ∨ status = 503 ∨ status = 504 := by
  simp only [busyStatuses, List.mem_cons, List.not_mem_nil, or_false]

/-- A busy status decides, whatever the reason. -/
theorem classify_of_busyStatus {status : UInt16} (h : status ∈ busyStatuses)
    (reason : Option String) (message : String) :
    classify ⟨some status, reason, message⟩ = .transient := by
  rcases mem_busyStatuses.mp h with rfl | rfl | rfl | rfl | rfl | rfl <;> rfl

end RemoteFault
end WarehouseJobs
