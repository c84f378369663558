-- Programs at work at the same time. One responder answers them all, and it takes up one
-- request after the other, in whatever order they come. The laws here take a run of many
-- programs apart: each program had a run of its own, and the responder served all the turns.
import Mathlib.Algebra.BigOperators.Fin
import Mathlib.Algebra.Order.BigOperators.Group.Finset
import WarehouseJobs.Proofs.Programs.Turns

namespace WarehouseJobs

variable {S : Signature}

/-- Who answers the requests of programs. A request may have more than one answer, and an
answer may change the state. -/
structure Responder (S : Signature) where
  State : Type
  Answers : State → (r : S.Request) → S.Answer r → State → Prop

namespace Responder

/-- All the turns of a list, one after the other, lead from the first state to the second. -/
inductive Serves (R : Responder S) : R.State → List (Turn S) → R.State → Prop
  | nil (s : R.State) : Serves R s [] s
  | cons {s m s' : R.State} {t : Turn S} {ts : List (Turn S)} :
      R.Answers s t.request t.answer m → Serves R m ts s' → Serves R s (t :: ts) s'

theorem serves_cons_iff {R : Responder S} {s s' : R.State} {t : Turn S} {ts : List (Turn S)} :
    R.Serves s (t :: ts) s' ↔ ∃ m, R.Answers s t.request t.answer m ∧ R.Serves m ts s' := by
  constructor
  · intro h
    cases h with
    | cons hans h => exact ⟨_, hans, h⟩
  · rintro ⟨m, hans, h⟩
    exact .cons hans h

theorem serves_append {R : Responder S} {s s' : R.State} {us vs : List (Turn S)} :
    R.Serves s (us ++ vs) s' ↔ ∃ m, R.Serves s us m ∧ R.Serves m vs s' := by
  induction us generalizing s with
  | nil =>
    constructor
    · intro h
      exact ⟨s, .nil s, h⟩
    · rintro ⟨m, hus, hvs⟩
      cases hus
      exact hvs
  | cons t us ih =>
    constructor
    · intro h
      cases h with
      | cons hans h =>
        obtain ⟨m, hus, hvs⟩ := ih.mp h
        exact ⟨m, .cons hans hus, hvs⟩
    · rintro ⟨m, hus, hvs⟩
      cases hus with
      | cons hans hus => exact .cons hans (ih.mpr ⟨m, hus, hvs⟩)

/-- Every request gets an answer. -/
def Willing (R : Responder S) : Prop := ∀ s r, ∃ a s', R.Answers s r a s'

end Responder

/-- Programs at work at the same time, and the state of the one who answers them. -/
structure Crew (R : Responder S) (n : Nat) (α : Type) where
  programs : Fin n → Program S α
  state : R.State

namespace Crew

variable {R : Responder S} {n : Nat} {α : Type}

/-- One of the programs takes its next turn. -/
inductive Step : Crew R n α → Fin n × Turn S → Crew R n α → Prop
  | turn {c : Crew R n α} {i : Fin n} {r : S.Request} {next : S.Answer r → Program S α}
      {a : S.Answer r} {s' : R.State} :
      c.programs i = .ask r next → R.Answers c.state r a s' →
      Step c (i, ⟨r, a⟩) ⟨Function.update c.programs i (next a), s'⟩

/-- The turns of a list, each with the one who takes it, lead from the first crew to the
second. -/
inductive Steps : Crew R n α → List (Fin n × Turn S) → Crew R n α → Prop
  | nil (c : Crew R n α) : Steps c [] c
  | cons {c m c' : Crew R n α} {x : Fin n × Turn S} {ts : List (Fin n × Turn S)} :
      Step c x m → Steps m ts c' → Steps c (x :: ts) c'

/-- Nobody can take another turn. -/
def Resting (c : Crew R n α) : Prop := ∀ x c', ¬ c.Step x c'

/-! ## The turns of one program -/

def turnsOf (i : Fin n) (ts : List (Fin n × Turn S)) : List (Turn S) :=
  ts.filterMap fun (j, t) => if j = i then some t else none

@[simp] theorem turnsOf_nil (i : Fin n) : turnsOf (S := S) i [] = [] := rfl

@[simp] theorem turnsOf_cons_self (i : Fin n) (t : Turn S) (ts : List (Fin n × Turn S)) :
    turnsOf i ((i, t) :: ts) = t :: turnsOf i ts := by
  simp [turnsOf]

theorem turnsOf_cons_ne {i j : Fin n} (h : j ≠ i) (t : Turn S) (ts : List (Fin n × Turn S)) :
    turnsOf i ((j, t) :: ts) = turnsOf i ts := by
  simp [turnsOf, h]

theorem turnsOf_append (i : Fin n) (us vs : List (Fin n × Turn S)) :
    turnsOf i (us ++ vs) = turnsOf i us ++ turnsOf i vs := by
  simp [turnsOf]

theorem mem_turnsOf {i : Fin n} {t : Turn S} {ts : List (Fin n × Turn S)} :
    t ∈ turnsOf i ts ↔ (i, t) ∈ ts := by
  simp [turnsOf]

/-- What all turns have in common, the turns of each program have in common. -/
theorem forall_turns_iff {P : Turn S → Prop} {ts : List (Fin n × Turn S)} :
    (∀ t ∈ ts.map Prod.snd, P t) ↔ ∀ i, ∀ t ∈ turnsOf i ts, P t := by
  constructor
  · intro h i t ht
    exact h t (List.mem_map.mpr ⟨_, mem_turnsOf.mp ht, rfl⟩)
  · intro h t ht
    obtain ⟨⟨i, t⟩, hmem, rfl⟩ := List.mem_map.mp ht
    exact h i t (mem_turnsOf.mpr hmem)

/-- Every turn is the turn of one program, so the turns can be counted program by program. -/
theorem countP_eq_sum (p : Turn S → Bool) (ts : List (Fin n × Turn S)) :
    (ts.map Prod.snd).countP p = ∑ i, (turnsOf i ts).countP p := by
  induction ts with
  | nil => simp
  | cons x ts ih =>
    obtain ⟨j, t⟩ := x
    have hone : ∀ i, (turnsOf i ((j, t) :: ts)).countP p =
        (turnsOf i ts).countP p + if i = j then (if p t then 1 else 0) else 0 := by
      intro i
      by_cases hij : i = j
      · subst hij
        rw [turnsOf_cons_self, List.countP_cons, if_pos rfl]
      · rw [turnsOf_cons_ne (Ne.symm hij), if_neg hij, Nat.add_zero]
    rw [List.map_cons, List.countP_cons, ih, Finset.sum_congr rfl fun i _ => hone i,
      Finset.sum_add_distrib, Finset.sum_ite_eq' Finset.univ j, if_pos (Finset.mem_univ j)]

theorem length_eq_sum (ts : List (Fin n × Turn S)) :
    ts.length = ∑ i, (turnsOf i ts).length := by
  simpa using countP_eq_sum (fun _ => true) ts

/-! ## A run taken apart -/

theorem Steps.goes {c c' : Crew R n α} {ts : List (Fin n × Turn S)} (h : Steps c ts c')
    (i : Fin n) : (c.programs i).Goes (turnsOf i ts) (c'.programs i) := by
  induction h with
  | nil c => exact .here _
  | cons hstep _ ih =>
    cases hstep with
    | @turn j r next a s' hj _ =>
      by_cases hij : j = i
      · subst hij
        rw [turnsOf_cons_self, hj]
        simp only [Function.update_self] at ih
        exact .turn ih
      · rw [turnsOf_cons_ne hij]
        simpa only [Function.update_of_ne (Ne.symm hij)] using ih

theorem Steps.serves {c c' : Crew R n α} {ts : List (Fin n × Turn S)} (h : Steps c ts c') :
    R.Serves c.state (ts.map Prod.snd) c'.state := by
  induction h with
  | nil c => exact .nil _
  | cons hstep _ ih =>
    cases hstep with
    | turn _ ha => exact .cons ha ih

/-- Programs that end make a run that ends, however their turns come. -/
theorem Steps.length_le {c c' : Crew R n α} {ts : List (Fin n × Turn S)} {m : Nat}
    (h : Steps c ts c') (hc : ∀ i, (c.programs i).EndsWithin m) : ts.length ≤ n * m := by
  rw [length_eq_sum]
  calc ∑ i, (turnsOf i ts).length ≤ ∑ _i : Fin n, m :=
        Finset.sum_le_sum fun i _ => ((h.goes i).endsWithin (hc i)).1
    _ = n * m := by simp

/-- Where nobody can take another turn, everybody has ended. -/
theorem Steps.all_end {c c' : Crew R n α} {ts : List (Fin n × Turn S)} {m : Nat}
    (h : Steps c ts c') (hc : ∀ i, (c.programs i).EndsWithin m) (hw : R.Willing)
    (hr : c'.Resting) : ∃ results : Fin n → α, ∀ i, c'.programs i = .done (results i) ∧
      (c.programs i).Ends (turnsOf i ts) (results i) := by
  have hdone : ∀ i, ∃ a, c'.programs i = .done a := by
    intro i
    have hend := ((h.goes i).endsWithin (hc i)).2
    cases hp : c'.programs i with
    | done a => exact ⟨a, rfl⟩
    | pending => simp [hp, Program.EndsWithin] at hend
    | ask r next =>
      obtain ⟨a, s', ha⟩ := hw c'.state r
      exact absurd (.turn hp ha) (hr _ _)
  choose results hresults using hdone
  refine ⟨results, fun i => ⟨hresults i, ?_⟩⟩
  have := h.goes i
  rwa [hresults i] at this

end Crew
end WarehouseJobs
