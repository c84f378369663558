-- Programs that watch a job, and heed its end. A look that shows the job at its end settles what
-- they come to, and they ask the service for nothing after it.
import WarehouseJobs.Proofs.Programs.Asking
import WarehouseJobs.Proofs.Programs.Minding

namespace WarehouseJobs

/-! ## Looks among turns -/

namespace Turn

/-- The answer to a look at a job. -/
def look? : Turn WorkSignature → Option (Except RemoteFault JobHandle)
  | ⟨.get .., answer⟩ => some answer
  | _ => none

/-- The handle of a look that shows the job at its end. -/
def ended? (job : JobReference) (t : Turn WorkSignature) : Option JobHandle :=
  match t.look? with
  | some (.ok handle) =>
    if job.sameJob handle.reference && handle.isTerminal then some handle else none
  | _ => none

variable {job : JobReference} {t : Turn WorkSignature} {handle : JobHandle}

theorem ended?_eq_some_iff : t.ended? job = some handle ↔
    t.look? = some (.ok handle) ∧ job.sameJob handle.reference = true ∧
      handle.isTerminal = true := by
  unfold ended?
  constructor
  · intro h
    split at h
    · rename_i found hlook
      split at h
      · rename_i hboth
        cases h
        exact ⟨hlook, Bool.and_eq_true_iff.mp hboth⟩
      · cases h
    · cases h
  · rintro ⟨hlook, hsame, hterminal⟩
    simp [hlook, hsame, hterminal]

theorem look?_of_isLocal (h : t.isLocal = true) : t.look? = none := by
  obtain ⟨request, answer⟩ := t
  cases request <;> first | rfl | cases h

theorem ended?_of_isLocal (h : t.isLocal = true) : t.ended? job = none := by
  unfold ended?
  rw [look?_of_isLocal h]

end Turn

/-- The answers to all looks, the last one at the end. -/
def looks (ts : List (Turn WorkSignature)) : List (Except RemoteFault JobHandle) :=
  ts.filterMap Turn.look?

theorem looks_append (us vs : List (Turn WorkSignature)) :
    looks (us ++ vs) = looks us ++ looks vs := List.filterMap_append

theorem looks_of_local {ts : List (Turn WorkSignature)} (h : ∀ t ∈ ts, t.isLocal = true) :
    looks ts = [] :=
  List.filterMap_eq_nil_iff.mpr fun t ht => Turn.look?_of_isLocal (h t ht)

theorem looks_locally {r : WorkRequest} {a : r.Answer} (h : WorkRequest.isLocal r = true) :
    looks [⟨r, a⟩] = [] := looks_of_local (List.forall_mem_singleton.mpr h)

/-- The last look was answered with this handle, and it is one of the job. -/
structure LastSaw (job : JobReference) (ts : List (Turn WorkSignature)) (handle : JobHandle) :
    Prop where
  last : (looks ts).getLast? = some (.ok handle)
  own : job.sameJob handle.reference = true

theorem LastSaw.unique {job : JobReference} {ts : List (Turn WorkSignature)} {a b : JobHandle}
    (ha : LastSaw job ts a) (hb : LastSaw job ts b) : a = b := by
  have h := ha.last
  rw [hb.last] at h
  cases h
  rfl

namespace Program

variable {α β : Type} {job : JobReference} {ts : List (Turn WorkSignature)}

theorem Concludes.asksOnly {P : α → Prop} {K : WorkRequest → Prop} {p : Work α}
    (h : p.Concludes P) (hK : ∀ r, K (.locally r)) : AsksOnly (S := WorkSignature) K p := by
  induction p with
  | done a => trivial
  | ask request next ih =>
    refine ⟨?_, fun answer => ih answer (h.2 answer)⟩
    cases request with
    | locally r => exact hK r
    | _ => cases h.1
  | pending => trivial

/-! ## Programs that heed the end of a job -/

/-- A look that shows the job at its end makes the program come to a result of the kind that
`Ending` tells, and nothing more is asked of the service. Without such a look, the program may
give what `Other` tells. -/
def Heeds (job : JobReference) (Ending : JobHandle → α → Prop) (Other : α → Prop) : Work α → Prop
  | .done a => Other a
  | .ask request next => ∀ answer,
    (∀ handle, Turn.ended? job ⟨request, answer⟩ = some handle →
      (next answer).Concludes (Ending handle)) ∧
    (Turn.ended? job ⟨request, answer⟩ = none → Heeds job Ending Other (next answer))
  | .pending => True

variable {Ending : JobHandle → α → Prop} {Other : α → Prop}

theorem heeds_locally {request : LocalRequest} {f : request.Answer → Work α}
    (h : ∀ answer, Heeds job Ending Other (f answer)) :
    Heeds job Ending Other (.ask (S := WorkSignature) (.locally request) .done >>= f) := by
  intro answer
  refine ⟨fun handle hended => ?_, fun _ => h answer⟩
  rw [Turn.ended?_of_isLocal rfl] at hended
  cases hended

theorem Heeds.bind {EndingB : JobHandle → β → Prop} {OtherB : β → Prop} {p : Work α}
    {f : α → Work β} (hp : Heeds job Ending Other p)
    (hending : ∀ handle a, Ending handle a → (f a).Concludes (EndingB handle))
    (hother : ∀ a, Other a → Heeds job EndingB OtherB (f a)) :
    Heeds job EndingB OtherB (p >>= f) := by
  show Heeds job EndingB OtherB (Program.bind p f)
  induction p with
  | done a => exact hother a hp
  | ask request next ih =>
    intro answer
    obtain ⟨hended, hgoes⟩ := hp answer
    exact ⟨fun handle h => (hended handle h).bind (hending handle), fun h => ih answer (hgoes h)⟩
  | pending => trivial

/-- First a part that is done with the service, and then one that heeds the end. -/
theorem Concludes.heeds_bind {P : β → Prop} {p : Work β} {f : β → Work α} (h : p.Concludes P)
    (hf : ∀ b, Heeds job Ending Other (f b)) : Heeds job Ending Other (p >>= f) := by
  show Heeds job Ending Other (Program.bind p f)
  induction p with
  | done b => exact hf b
  | ask request next ih =>
    intro answer
    refine ⟨fun handle hended => ?_, fun _ => ih answer (h.2 answer)⟩
    rw [Turn.ended?_of_isLocal (t := ⟨request, answer⟩) h.1] at hended
    cases hended
  | pending => exact h.elim

/-- Either no look has shown the end of the job yet, or the last look did and the program is done
with the service. -/
theorem Heeds.goes {p q : Work α} (h : Heeds job Ending Other p) (hgoes : p.Goes ts q) :
    (∀ t ∈ ts, t.ended? job = none) ∧ Heeds job Ending Other q ∨
      ∃ handle, LastSaw job ts handle ∧ handle.isTerminal = true ∧ q.Concludes (Ending handle) := by
  induction hgoes with
  | here p => exact .inl ⟨by simp, h⟩
  | @turn request next answer ts q hgoes ih =>
    obtain ⟨hended, hgoesOn⟩ := h answer
    cases hlook : Turn.ended? job ⟨request, answer⟩ with
    | none =>
      rcases ih (hgoesOn hlook) with ⟨hts, hq⟩ | ⟨handle, hsaw, hterminal, hq⟩
      · exact .inl ⟨List.forall_mem_cons.mpr ⟨hlook, hts⟩, hq⟩
      · refine .inr ⟨handle, ⟨?_, hsaw.own⟩, hterminal, hq⟩
        show (looks ([_] ++ ts)).getLast? = _
        rw [looks_append, List.getLast?_append, hsaw.last]
        rfl
    | some handle =>
      obtain ⟨hts, hq⟩ := (hended handle hlook).goes hgoes
      obtain ⟨hlooked, hsame, hterminal⟩ := Turn.ended?_eq_some_iff.mp hlook
      refine .inr ⟨handle, ⟨?_, hsame⟩, hterminal, hq⟩
      show (looks ([_] ++ ts)).getLast? = _
      rw [looks_append, looks_of_local hts, List.append_nil]
      simp [looks, hlooked]

end Program

/-- If the last look showed the end of the job, one of the turns did. -/
theorem LastSaw.ended {job : JobReference} {ts : List (Turn WorkSignature)} {handle : JobHandle}
    (h : LastSaw job ts handle) (hterminal : handle.isTerminal = true) :
    ∃ t ∈ ts, t.ended? job = some handle := by
  obtain ⟨t, ht, hlook⟩ := List.mem_filterMap.mp (List.mem_of_getLast? h.last)
  exact ⟨t, ht, Turn.ended?_eq_some_iff.mpr ⟨hlook, h.own, hterminal⟩⟩

end WarehouseJobs
