-- How many looks a wait takes. Only a look that finds the job unfinished gives it more of them,
-- and against a service that never relents it stops exactly when they are used up.
import WarehouseJobs.Proofs.Waiting.CallingOff
import WarehouseJobs.Proofs.Waiting.FirstDecisive
import WarehouseJobs.Proofs.Waiting.Noting

namespace WarehouseJobs.Waiting

open Program

/-! ## The looks that a wait may take -/

/-- As many looks as a wait may take, if it has seen these answers: a busy service is asked once
more than it may be busy in a row, and all that again after each look at an unfinished job. -/
def allowance (limit : UInt32) (reference : JobReference)
    (seen : List (Except RemoteFault JobHandle)) : Nat :=
  (seen.countP (isUnfinished reference) + 1) * (limit.toNat + 1)

variable {limit errors errors' : UInt32} {reference : JobReference} {look : Look}
  {seen seen' : List Look} {ts : List (Turn WorkSignature)}

/-- With so many busy looks in a row counted, a wait may still take at least as many as it takes
to give up. -/
structure Ahead (limit : UInt32) (reference : JobReference)
    (seen : List (Except RemoteFault JobHandle)) (errors : UInt32) : Prop where
  within : errors.toNat ≤ limit.toNat
  left : seen.length + (limit.toNat + 1 - errors.toNat) ≤ allowance limit reference seen

theorem Ahead.lt (h : Ahead limit reference seen errors) :
    seen.length < allowance limit reference seen := by
  have := h.within
  have := h.left
  omega

/-- A look after which the wait goes on: the service was busy once more, or the job has not ended
and there are new looks for it. -/
theorem Ahead.again (hlimit : limit.toNat + 1 < UInt32.size)
    (h : Ahead limit reference seen errors)
    (hjudged : Judged limit errors reference look (.again errors')) :
    Ahead limit reference (seen ++ [look]) errors' := by
  have hlt := h.lt
  obtain ⟨hwithin, hleft⟩ := h
  cases hjudged with
  | unfinished hunfinished =>
    refine ⟨Nat.zero_le _, ?_⟩
    simp only [allowance, List.countP_append, List.countP_singleton, hunfinished, if_true,
      List.length_append, List.length_singleton, Nat.add_mul] at hlt ⊢
    simp only [UInt32.toNat_zero]
    omega
  | @busy cause _ hstay =>
    have hcount : allowance limit reference (seen ++ [.error cause]) =
        allowance limit reference seen := by
      simp [allowance, isUnfinished]
    have hsucc := toNat_succ hlimit hwithin
    rw [UInt32.lt_iff_toNat_lt] at hstay
    refine ⟨by omega, ?_⟩
    rw [hcount, List.length_append, List.length_singleton]
    omega

variable {answers : Nat → Except RemoteFault JobHandle} {n k : Nat}

/-- The answers of surroundings that neither call a wait off nor stir it in its sleep. -/
def Undisturbed : (r : LocalRequest) → r.Answer → Prop
  | .signal, cancelled => cancelled = false
  | .takeSignal, cancelled => cancelled = false
  | .waitForSignal _, woken => woken ≠ Woken.change
  | _, _ => True

variable {project : ProjectId} {polling : PollingSettings}

end WarehouseJobs.Waiting
