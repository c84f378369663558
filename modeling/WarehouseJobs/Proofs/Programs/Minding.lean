-- Programs that work for one job, and mind which job the service answers for. As long as the
-- answers are about that job they go on; after an answer about another job they ask the
-- service for nothing more, and end with a fault.
import WarehouseJobs.Effects
import WarehouseJobs.Proofs.Programs.Turns

namespace WarehouseJobs

/-! ## Turns with the service -/

def WorkRequest.isLocal : WorkRequest → Bool
  | .locally _ => true
  | _ => false

namespace Turn

def isLocal (t : Turn WorkSignature) : Bool := WorkRequest.isLocal t.request

/-- The handle that the service answered with. -/
def handle? : Turn WorkSignature → Option JobHandle
  | ⟨.create .., .ok handle⟩ => some handle
  | ⟨.get .., .ok handle⟩ => some handle
  | _ => none

/-- If there is a handle in the answer, it is one of the job. -/
def Own (job : JobReference) (t : Turn WorkSignature) : Prop :=
  ∀ handle, t.handle? = some handle → job.sameJob handle.reference = true

theorem handle?_of_isLocal {t : Turn WorkSignature} (h : t.isLocal = true) : t.handle? = none := by
  obtain ⟨request, answer⟩ := t
  cases request <;> first | rfl | cases h

theorem own_of_isLocal {t : Turn WorkSignature} (job : JobReference) (h : t.isLocal = true) :
    t.Own job := by
  intro handle hhandle
  rw [handle?_of_isLocal h] at hhandle
  cases hhandle

/-- Either the answer is about no other job, or it has a handle of another job. -/
theorem own_or_foreign (job : JobReference) (t : Turn WorkSignature) :
    t.Own job ∨ ∃ handle, t.handle? = some handle ∧ job.sameJob handle.reference = false := by
  cases hhandle : t.handle? with
  | none => exact .inl fun handle h => by rw [hhandle] at h; cases h
  | some handle =>
    cases hsame : job.sameJob handle.reference with
    | true =>
      refine .inl fun other h => ?_
      rw [hhandle] at h
      cases h
      exact hsame
    | false => exact .inr ⟨handle, rfl, hsame⟩

end Turn

namespace Program

variable {α β : Type} {ts : List (Turn WorkSignature)}

/-! ## Programs that are done with the service -/

/-- Asks the service for nothing, and ends with a result of this kind. -/
def Concludes (P : α → Prop) : Work α → Prop
  | .done a => P a
  | .ask request next => WorkRequest.isLocal request = true ∧ ∀ a, Concludes P (next a)
  | .pending => False

theorem Concludes.mono {P Q : α → Prop} {p : Work α} (h : p.Concludes P) (hPQ : ∀ a, P a → Q a) :
    p.Concludes Q := by
  induction p with
  | done a => exact hPQ a h
  | ask request next ih => exact ⟨h.1, fun a => ih a (h.2 a)⟩
  | pending => exact h.elim

theorem Concludes.bind {P : α → Prop} {Q : β → Prop} {p : Work α} {f : α → Work β}
    (hp : p.Concludes P) (hf : ∀ a, P a → (f a).Concludes Q) : (p >>= f).Concludes Q := by
  show (Program.bind p f).Concludes Q
  induction p with
  | done a => exact hf a hp
  | ask request next ih => exact ⟨hp.1, fun a => ih a (hp.2 a)⟩
  | pending => exact hp.elim

theorem Concludes.goes {P : α → Prop} {p q : Work α} (h : p.Concludes P) (hgoes : p.Goes ts q) :
    (∀ t ∈ ts, t.isLocal = true) ∧ q.Concludes P := by
  induction hgoes with
  | here p => exact ⟨by simp, h⟩
  | turn _ ih =>
    obtain ⟨hts, hq⟩ := ih (h.2 _)
    exact ⟨List.forall_mem_cons.mpr ⟨h.1, hts⟩, hq⟩

/-! ## Programs that mind a job -/

/-- After the turns `ts`, the program works on for the job. `Q` tells what it may end with after
all its turns, if no answer was about another job, and `Fail` what it ends with after an answer
about the job of another reference. -/
def Minds (job : JobReference) (Fail : JobReference → α → Prop)
    (Q : List (Turn WorkSignature) → α → Prop) : List (Turn WorkSignature) → Work α → Prop
  | ts, .done a => Q ts a
  | ts, .ask request next => ∀ answer,
    (Turn.Own job ⟨request, answer⟩ → Minds job Fail Q (ts ++ [⟨request, answer⟩]) (next answer)) ∧
    ∀ handle, Turn.handle? ⟨request, answer⟩ = some handle →
      job.sameJob handle.reference = false → (next answer).Concludes (Fail handle.reference)
  | _, .pending => True

variable {job : JobReference} {Fail : JobReference → α → Prop}
  {Q : List (Turn WorkSignature) → α → Prop}

theorem minds_locally {request : LocalRequest} {f : request.Answer → Work α}
    (h : ∀ answer, Minds job Fail Q (ts ++ [⟨.locally request, answer⟩]) (f answer)) :
    Minds job Fail Q ts (.ask (S := WorkSignature) (.locally request) .done >>= f) := by
  intro answer
  refine ⟨fun _ => h answer, fun handle hhandle => ?_⟩
  rw [Turn.handle?_of_isLocal rfl] at hhandle
  cases hhandle

theorem Minds.bind {FailB : JobReference → β → Prop} {QB : List (Turn WorkSignature) → β → Prop}
    {p : Work α} {f : α → Work β} (hp : Minds job Fail Q ts p)
    (hfail : ∀ actual a, Fail actual a → (f a).Concludes (FailB actual))
    (hf : ∀ ts a, Q ts a → Minds job FailB QB ts (f a)) : Minds job FailB QB ts (p >>= f) := by
  show Minds job FailB QB ts (Program.bind p f)
  induction p generalizing ts with
  | done a => exact hf ts a hp
  | ask request next ih =>
    intro answer
    obtain ⟨hown, hforeign⟩ := hp answer
    exact ⟨fun h => ih answer (hown h),
      fun handle hhandle hother => (hforeign handle hhandle hother).bind (hfail _)⟩
  | pending => trivial

theorem Minds.mono {Fail' : JobReference → α → Prop} {p : Work α} (h : Minds job Fail Q ts p)
    (hfail : ∀ actual a, Fail actual a → Fail' actual a) : Minds job Fail' Q ts p := by
  induction p generalizing ts with
  | done a => exact h
  | ask request next ih =>
    intro answer
    obtain ⟨hown, hforeign⟩ := h answer
    exact ⟨fun hone => ih answer (hown hone),
      fun handle hhandle hother => (hforeign handle hhandle hother).mono (hfail _)⟩
  | pending => trivial

/-- First a part that is done with the service, and then one that minds the job. -/
theorem Concludes.minds_bind {P : β → Prop} {p : Work β} {f : β → Work α} (h : p.Concludes P)
    (hf : ∀ vs b, Minds job Fail Q (ts ++ vs) (f b)) : Minds job Fail Q ts (p >>= f) := by
  show Minds job Fail Q ts (Program.bind p f)
  induction p generalizing ts with
  | done b =>
    have hdone := hf [] b
    rwa [List.append_nil] at hdone
  | ask request next ih =>
    intro answer
    refine ⟨fun _ => ih answer (h.2 answer) fun vs b => ?_, fun handle hhandle => ?_⟩
    · rw [List.append_assoc]
      exact hf _ b
    · rw [Turn.handle?_of_isLocal (t := ⟨request, answer⟩) h.1] at hhandle
      cases hhandle
  | pending => exact h.elim

/-- Turns in which one answer was about another job: the first one, and after it there are
only turns that leave the service alone. -/
structure Strayed (job : JobReference) (ts : List (Turn WorkSignature)) (actual : JobReference) :
    Prop where
  split : ∃ before t after handle, ts = before ++ t :: after ∧ (∀ u ∈ before, Turn.Own job u) ∧
    t.handle? = some handle ∧ handle.reference = actual ∧ ∀ v ∈ after, v.isLocal = true
  other : job.sameJob actual = false

theorem Strayed.cons {t : Turn WorkSignature} {actual : JobReference} (h : Strayed job ts actual)
    (ht : t.Own job) : Strayed job (t :: ts) actual := by
  obtain ⟨⟨before, u, after, handle, rfl, hbefore, hrest⟩, hother⟩ := h
  exact ⟨⟨t :: before, u, after, handle, rfl, List.forall_mem_cons.mpr ⟨ht, hbefore⟩, hrest⟩,
    hother⟩

/-- A last turn with a handle is the one that strayed. -/
theorem Strayed.eq_last {t : Turn WorkSignature} {actual : JobReference} {handle : JobHandle}
    (h : Strayed job (ts ++ [t]) actual) (hhandle : t.handle? = some handle) :
    handle.reference = actual := by
  obtain ⟨⟨before, u, after, found, hsplit, -, hfound, rfl, hafter⟩, -⟩ := h
  rcases List.eq_nil_or_concat after with rfl | ⟨vs, v, rfl⟩
  · obtain ⟨-, hlast⟩ := List.append_inj' hsplit rfl
    cases hlast
    rw [hhandle] at hfound
    cases hfound
    rfl
  · rw [List.concat_eq_append, ← List.cons_append, ← List.append_assoc] at hsplit
    obtain ⟨-, hlast⟩ := List.append_inj' hsplit rfl
    cases hlast
    rw [Turn.handle?_of_isLocal (hafter t (by simp))] at hhandle
    cases hhandle

/-- Either the program works on for the job, or an answer was about another one and the program
is done with the service. -/
theorem Minds.goes {p q : Work α} {us : List (Turn WorkSignature)} (h : Minds job Fail Q us p)
    (hgoes : p.Goes ts q) :
    (∀ t ∈ ts, Turn.Own job t) ∧ Minds job Fail Q (us ++ ts) q ∨
      ∃ actual, Strayed job ts actual ∧ q.Concludes (Fail actual) := by
  induction hgoes generalizing us with
  | here p =>
    rw [List.append_nil]
    exact .inl ⟨by simp, h⟩
  | @turn request next answer ts q hgoes ih =>
    obtain ⟨hown, hforeign⟩ := h answer
    rcases Turn.own_or_foreign job ⟨request, answer⟩ with hone | ⟨handle, hhandle, hother⟩
    · rcases ih (hown hone) with ⟨hts, hq⟩ | ⟨actual, hstrayed, hq⟩
      · rw [List.append_assoc] at hq
        exact .inl ⟨List.forall_mem_cons.mpr ⟨hone, hts⟩, hq⟩
      · exact .inr ⟨actual, hstrayed.cons hone, hq⟩
    · obtain ⟨hts, hq⟩ := (hforeign handle hhandle hother).goes hgoes
      exact .inr ⟨handle.reference,
        ⟨⟨[], _, ts, handle, rfl, by simp, hhandle, rfl, hts⟩, hother⟩, hq⟩

end Program
end WarehouseJobs
