-- The looks of a wait, noted down as they are answered. What a look that decides nothing keeps is
-- kept all the way, so a wait is told by its looks: they pass one by one, until one decides it.
import WarehouseJobs.Proofs.Export.Parts
import WarehouseJobs.Proofs.Faults
import WarehouseJobs.Proofs.Programs.Facing

namespace WarehouseJobs.Waiting

open Program

/-- What a look is answered. -/
abbrev Look := Except RemoteFault JobHandle

/-! ## What a look is judged to be -/

/-- A look finds the job of a reference, and that it has not ended. -/
def isUnfinished (reference : JobReference) : Look → Bool
  | .ok handle => reference.sameJob handle.reference && !handle.isTerminal
  | .error _ => false

/-- What a look means for a wait that has counted `errors` busy looks in a row. -/
inductive Judged (limit errors : UInt32) (reference : JobReference) : Look → Verdict → Prop
  | unfinished {look : Look} : isUnfinished reference look = true →
      Judged limit errors reference look (.again 0)
  | busy {cause : RemoteFault} : cause.classify = .transient → ¬ limit < errors + 1 →
      Judged limit errors reference (.error cause) (.again (errors + 1))
  | ended {handle : JobHandle} : reference.sameJob handle.reference = true →
      handle.isTerminal = true →
      Judged limit errors reference (.ok handle) (.decided (.ok (.completed handle)))
  | gaveUp {look : Look} {fault : Fault} :
      (∀ handle, look = .ok handle → reference.sameJob handle.reference = false) → Unseen fault →
      Judged limit errors reference look (.decided (.error fault))

variable {limit errors errors' : UInt32} {reference : JobReference} {look : Look}
  {result : Except Fault WaitOutcome} {α β : Type} {seen seen' : List Look}
  {ts : List (Turn WorkSignature)}

theorem isUnfinished_ok_iff {handle : JobHandle} : isUnfinished reference (.ok handle) = true ↔
    reference.sameJob handle.reference = true ∧ handle.isTerminal = false := by
  simp [isUnfinished]

theorem judged (limit errors : UInt32) (reference : JobReference) (look : Look) :
    Judged limit errors reference look (judge limit errors (looked .polling reference look)) := by
  cases look with
  | ok handle =>
    cases hsame : reference.sameJob handle.reference with
    | false =>
      rw [looked_of_other hsame]
      refine .gaveUp ?_ trivial
      rintro _ ⟨⟩
      exact hsame
    | true =>
      rw [looked_of_same hsame]
      show Judged _ _ _ _ (if handle.isTerminal then _ else _)
      cases hterminal : handle.isTerminal with
      | true => exact .ended hsame hterminal
      | false => exact .unfinished (isUnfinished_ok_iff.mpr ⟨hsame, hterminal⟩)
  | error cause =>
    have hother : ∀ handle, (.error cause : Look) = .ok handle →
        reference.sameJob handle.reference = false := by
      rintro _ ⟨⟩
    unfold looked judge transientCause? RemoteFault.during
    by_cases hc : cause.classify = .transient
    · by_cases hover : limit < errors + 1
      · simp only [hc, if_true, hover]
        exact .gaveUp hother rfl
      · simp only [hc, if_true, hover, if_false]
        exact .busy hc hover
    · simp only [hc, if_false]
      exact .gaveUp hother rfl

/-! ## A notebook -/

/-- Any service, in any surroundings, that keeps the answers to all looks. -/
def notebook : Responder WorkSignature where
  State := List (Except RemoteFault JobHandle)
  Answers seen r a seen' := seen' = seen ++ looks [⟨r, a⟩]

theorem serves_notebook (seen : List Look) (ts : List (Turn WorkSignature)) :
    notebook.Serves seen ts (seen ++ looks ts) := by
  induction ts generalizing seen with
  | nil => simpa [looks] using Responder.Serves.nil (R := notebook) seen
  | cons t ts ih =>
    have hrest := ih (seen ++ looks [t])
    rw [List.append_assoc, ← looks_append] at hrest
    exact .cons rfl hrest

/-- A part of a wait that asks only for what is allowed after the looks seen so far, and leaves
looks and a result of the kind that `Q` tells. -/
abbrev Notes (Allowed : List Look → WorkRequest → Prop) (Q : α → List Look → Prop) (p : Work α)
    (seen : List Look) : Prop :=
  Bears notebook (fun _ => 0) Allowed (fun _ => Q) 0 p seen

variable {Allowed : List Look → WorkRequest → Prop}

theorem Notes.goes {Q : α → List Look → Prop} {p q : Work α} (h : Notes Allowed Q p [])
    (hgoes : p.Goes ts q) : Notes Allowed Q q (looks ts) := by
  obtain ⟨n, hn, hq⟩ := Bears.goes h hgoes (serves_notebook [] ts)
  rwa [Nat.le_zero.mp hn] at hq

/-- What has nothing to do with the service does not change what was seen. -/
theorem notes_aside {Q : β → List Look → Prop} {p : Work α} {f : α → Work β}
    (hallowed : ∀ r, WorkRequest.isLocal r = true → Allowed seen r)
    (hp : p.AsksOnly (WorkRequest.isLocal · = true)) (hf : ∀ a, Notes Allowed Q (f a) seen) :
    Notes Allowed Q (p >>= f) seen := by
  refine Bears.bind_of_asksOnly (R := notebook) (I := (· = seen)) hp rfl (fun _ _ => rfl) ?_ ?_ ?_
  · rintro _ r rfl hlocal
    exact hallowed r hlocal
  · rintro _ r a seen' rfl hlocal hans
    rw [hans, looks_locally hlocal]
    exact List.append_nil _
  · rintro a _ rfl
    exact hf a

theorem fetchStatus_notes {project : ProjectId}
    (hallowed : Allowed seen (.get project reference.id reference.location)) :
    Bears notebook (fun _ => 0) Allowed
      (fun n fetched seen' => n = 0 ∧
        ∃ look, fetched = looked .polling reference look ∧ seen' = seen ++ [look])
      0 (fetchStatus project reference) seen := by
  rw [fetchStatus_eq]
  exact ⟨hallowed, Nat.le_refl 0, fun look seen' hans => ⟨rfl, look, rfl, hans⟩⟩

/-! ## What all rounds keep -/

/-- Before each round of a wait `Inv` holds of the errors counted and the looks seen, and once the
wait is over `Q` holds of its result and the looks. -/
structure RoundInvariant (limit : UInt32) (reference : JobReference)
    (Allowed : List Look → WorkRequest → Prop) (Inv : UInt32 → List Look → Prop)
    (Q : Except Fault WaitOutcome → List Look → Prop) : Prop where
  aside : ∀ {seen r}, WorkRequest.isLocal r = true → Allowed seen r
  look : ∀ {errors seen project}, Inv errors seen →
    Allowed seen (.get project reference.id reference.location)
  again : ∀ {errors errors' seen look}, Inv errors seen →
    Judged limit errors reference look (.again errors') → Inv errors' (seen ++ [look])
  decided : ∀ {errors seen look result}, Inv errors seen →
    Judged limit errors reference look (.decided result) → Q result (seen ++ [look])
  calledOff : ∀ {errors seen}, Inv errors seen → Q (.ok .cancelled) seen

theorem awaitFrom_notes {polling : PollingSettings} {project : ProjectId}
    {Inv : UInt32 → List Look → Prop} {Q : Except Fault WaitOutcome → List Look → Prop}
    (hinv : RoundInvariant polling.maxTransientErrors reference Allowed Inv Q) (watcher : Watcher)
    (rounds : Nat) (interval : Nanos) (attempt : Nat) (h : Inv errors seen) :
    Notes Allowed Q
      (awaitFrom polling project reference watcher.onTick rounds interval errors attempt) seen := by
  induction rounds generalizing seen interval errors attempt with
  | zero => trivial
  | succ rounds ih =>
    have haside : ∀ seen r, WorkRequest.isLocal r = true → Allowed seen r :=
      fun _ _ => hinv.aside
    rw [awaitFrom]
    refine notes_aside (haside _) ⟨rfl, fun _ => trivial⟩ fun cancelled => ?_
    cases cancelled with
    | true =>
      exact notes_aside (p := Work.log _) (haside _) ⟨rfl, fun _ => trivial⟩
        fun _ => hinv.calledOff h
    | false =>
      refine (fetchStatus_notes (hinv.look h)).bind ?_
      rintro n fetched seen' ⟨rfl, look, rfl, rfl⟩
      refine notes_aside (haside _) ((watcher.aloof _).asksOnly fun _ => rfl) fun _ => ?_
      refine notes_aside (haside _) ((logAll_concludes _).asksOnly fun _ => rfl) fun _ => ?_
      have hjudged := judged polling.maxTransientErrors errors reference look
      cases hjudge : judge polling.maxTransientErrors errors (looked .polling reference look) with
      | decided result =>
        rw [hjudge] at hjudged
        exact hinv.decided h hjudged
      | again errors =>
        rw [hjudge] at hjudged
        have hagain := hinv.again h hjudged
        refine notes_aside (haside _) ⟨rfl, fun _ => trivial⟩ fun now => ?_
        refine notes_aside (haside _) (sleepOrCancel_asksOnly (fun _ => rfl) _ _)
          fun cancelled => ?_
        cases cancelled with
        | true =>
          exact notes_aside (p := Work.log _) (haside _) ⟨rfl, fun _ => trivial⟩
            fun _ => hinv.calledOff hagain
        | false => exact ih _ _ hagain

/-! ## The looks of a wait -/

/-- A look that decides nothing: the job has not ended, or the service is busy. -/
def Passes (reference : JobReference) (look : Look) : Prop :=
  isUnfinished reference look = true ∨ Busy look

/-- The looks of a wait that is over, and what it came to. -/
inductive Watched (reference : JobReference) : List Look → Except Fault WaitOutcome → Prop
  | ended {seen : List Look} {handle : JobHandle} : (∀ look ∈ seen, Passes reference look) →
      reference.sameJob handle.reference = true → handle.isTerminal = true →
      Watched reference (seen ++ [.ok handle]) (.ok (.completed handle))
  | gaveUp {seen : List Look} {look : Look} {fault : Fault} :
      (∀ look ∈ seen, Passes reference look) →
      (∀ handle, look = .ok handle → reference.sameJob handle.reference = false) →
      Unseen fault → Watched reference (seen ++ [look]) (.error fault)
  | calledOff {seen : List Look} : (∀ look ∈ seen, Passes reference look) →
      Watched reference seen (.ok .cancelled)

/-- All looks pass, until one decides. -/
theorem watching (limit : UInt32) (reference : JobReference) :
    RoundInvariant limit reference (fun _ _ => True)
      (fun _ seen => ∀ look ∈ seen, Passes reference look)
      (fun result seen => Watched reference seen result) where
  aside _ := trivial
  look _ := trivial
  again h hjudged := by
    refine List.forall_mem_append.mpr ⟨h, List.forall_mem_singleton.mpr ?_⟩
    cases hjudged with
    | unfinished hunfinished => exact .inl hunfinished
    | busy hc _ => exact .inr (busy_error_iff.mpr hc)
  decided h hjudged := by
    cases hjudged with
    | ended hsame hterminal => exact .ended h hsame hterminal
    | gaveUp hother hunseen => exact .gaveUp h hother hunseen
  calledOff h := .calledOff h

theorem watched_of_ends {polling : PollingSettings} {project : ProjectId} {handle : JobHandle}
    {watcher : Watcher} {rounds : Nat}
    (h : (awaitCompletion polling rounds project handle watcher.onTick).Ends ts result) :
    Watched handle.reference (looks ts) result :=
  (awaitFrom_notes (watching _ _) watcher rounds _ 0 (List.forall_mem_nil _)).goes h

end WarehouseJobs.Waiting
