-- Responders that keep jobs. What they keep can be looked at from outside, so that laws can
-- say which jobs there are before and after a run.
import WarehouseJobs.Effects
import WarehouseJobs.Proofs.Programs.Together

namespace WarehouseJobs

/-- A responder, and the jobs it keeps in each of its states. -/
structure Keeper (S : Signature) extends Responder S where
  jobs : State → List JobReference

namespace Keeper

variable {S : Signature} {K : Keeper S}

/-- There is a job of the same project and id. -/
def Holds (K : Keeper S) (s : K.State) (r : JobReference) : Prop :=
  ∃ x ∈ K.jobs s, x.sameJob r = true

/-- The second state keeps the jobs of the first, and one more of the identity of `r`. -/
def OneMore (K : Keeper S) (s s' : K.State) (r : JobReference) : Prop :=
  ∃ x : JobReference, x.sameJob r = true ∧ (K.jobs s').Perm (x :: K.jobs s)

/-- Both states keep the same jobs. -/
def SameJobs (K : Keeper S) (s s' : K.State) : Prop := (K.jobs s').Perm (K.jobs s)

theorem SameJobs.refl (s : K.State) : K.SameJobs s s := List.Perm.refl _

theorem SameJobs.trans {a b c : K.State} (hab : K.SameJobs a b) (hbc : K.SameJobs b c) :
    K.SameJobs a c := List.Perm.trans hbc hab

theorem SameJobs.holds_iff {s s' : K.State} (h : K.SameJobs s s') (r : JobReference) :
    K.Holds s' r ↔ K.Holds s r := by
  unfold Holds
  simp only [List.Perm.mem_iff h]

theorem OneMore.holds {s s' : K.State} {r : JobReference} (h : K.OneMore s s' r) :
    K.Holds s' r := by
  obtain ⟨x, hx, hp⟩ := h
  exact ⟨x, hp.mem_iff.mpr List.mem_cons_self, hx⟩

theorem OneMore.trans {a b c : K.State} {r : JobReference} (hab : K.OneMore a b r)
    (hbc : K.SameJobs b c) : K.OneMore a c r := by
  obtain ⟨x, hx, hp⟩ := hab
  exact ⟨x, hx, List.Perm.trans hbc hp⟩

theorem SameJobs.oneMore {a b c : K.State} {r : JobReference} (hab : K.SameJobs a b)
    (hbc : K.OneMore b c r) : K.OneMore a c r := by
  obtain ⟨x, hx, hp⟩ := hbc
  exact ⟨x, hx, hp.trans (List.Perm.cons x hab)⟩

/-! ## How many jobs of one identity -/

/-- How many jobs there are of the project and id of `r`. -/
def count (K : Keeper S) (s : K.State) (r : JobReference) : Nat :=
  (K.jobs s).countP fun x => x.sameJob r

theorem count_pos_iff {s : K.State} {r : JobReference} : 0 < K.count s r ↔ K.Holds s r := by
  rw [count, List.countP_pos_iff]
  exact Iff.rfl

theorem SameJobs.count_eq {s s' : K.State} (h : K.SameJobs s s') (r : JobReference) :
    K.count s' r = K.count s r := List.Perm.countP_eq _ h

theorem OneMore.count_eq {s s' : K.State} {r : JobReference} (h : K.OneMore s s' r) :
    K.count s' r = K.count s r + 1 := by
  obtain ⟨x, hx, hp⟩ := h
  unfold count
  rw [hp.countP_eq, List.countP_cons, if_pos hx]

/-! ## Turns with a keeper -/

/-- Turns that change nothing leave the jobs as they are. -/
theorem serves_same {Idle : Turn S → Prop} {s s' : K.State} {ts : List (Turn S)}
    (h : K.Serves s ts s') (hts : ∀ t ∈ ts, Idle t)
    (hone : ∀ {s s' : K.State} {t : Turn S}, Idle t → K.Answers s t.request t.answer s' →
      K.SameJobs s s') : K.SameJobs s s' := by
  induction h with
  | nil s => exact .refl s
  | cons hans _ ih =>
    exact (hone (hts _ List.mem_cons_self) hans).trans
      (ih fun t ht => hts t (List.mem_cons_of_mem _ ht))

/-- If a keeper that holds a job answers each request as one of the known kind and keeps the
same jobs, all turns with it are known, and the jobs are the same in the end. -/
theorem serves_known {r : JobReference} {Asked : S.Request → Prop} {Known : Turn S → Prop}
    (hone : ∀ {s s' : K.State} {t : Turn S}, Asked t.request → K.Holds s r →
      K.Answers s t.request t.answer s' → Known t ∧ K.SameJobs s s')
    {s s' : K.State} {ts : List (Turn S)} (h : K.Serves s ts s') (hs : K.Holds s r)
    (ha : ∀ t ∈ ts, Asked t.request) : (∀ t ∈ ts, Known t) ∧ K.SameJobs s s' := by
  induction h with
  | nil s => exact ⟨by simp, .refl s⟩
  | @cons s m s' t ts hans _ ih =>
    obtain ⟨hknown, hsame⟩ := hone (ha _ List.mem_cons_self) hs hans
    have hm : K.Holds m r := (hsame.holds_iff _).mpr hs
    obtain ⟨hrest, hsame'⟩ := ih hm fun t ht => ha t (List.mem_cons_of_mem _ ht)
    exact ⟨List.forall_mem_cons.mpr ⟨hknown, hrest⟩, hsame.trans hsame'⟩

end Keeper
end WarehouseJobs
