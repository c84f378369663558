-- What the service answers to an export that has drawn its id, in order. The submission goes on
-- only while the id is taken, and is settled by its last answer; all that comes after it are the
-- looks of the wait, and they settle what the export comes to.
import WarehouseJobs.Proofs.Export.Outcome
import WarehouseJobs.Proofs.Waiting.Noting

namespace WarehouseJobs

open Program

/-! ## What the service answers -/

/-- The answer to a create or to a look. -/
def Turn.answer? : Turn WorkSignature → Option (Except RemoteFault JobHandle)
  | ⟨.create .., answer⟩ => some answer
  | ⟨.get .., answer⟩ => some answer
  | _ => none

def answers (ts : List (Turn WorkSignature)) : List (Except RemoteFault JobHandle) :=
  ts.filterMap Turn.answer?

theorem answers_append (us vs : List (Turn WorkSignature)) :
    answers (us ++ vs) = answers us ++ answers vs := List.filterMap_append

/-- Where nothing is created, all that is answered are looks. -/
theorem answers_of_looksUnder {project : ProjectId} {reference : JobReference}
    {ts : List (Turn WorkSignature)} (h : ∀ t ∈ ts, LooksUnder project reference t.request) :
    answers ts = looks ts := by
  refine List.filterMap_congr fun t ht => ?_
  have hlooks := h t ht
  obtain ⟨request, answer⟩ := t
  cases request <;> first | rfl | exact hlooks.elim

/-- The answer that the id of a job is taken. -/
def Taken (answer : Except RemoteFault JobHandle) : Prop :=
  ∃ cause, answer = .error cause ∧ cause.classify = .alreadyExists

/-! ## Submissions -/

namespace Submission

variable {project : ProjectId} {job : JobDescription} {ts : List (Turn WorkSignature)}
  {submitted : Except Fault JobHandle}

theorem submit_answers (hid : job.reference.id.text.isEmpty = false)
    (h : (submit project job).Ends ts submitted) : ∃ said last, answers ts = said ++ [last] ∧
      (∀ answer ∈ said, Taken answer) ∧ submitted = looked .submission job.reference last := by
  obtain ⟨classified, hclassified, rfl⟩ := submit_ends_iff.mp h
  rcases (course_of_ends hid hclassified).asked with
    ⟨answer, events, rfl, -, rfl⟩ | ⟨cause, event, answer, rfl, htaken, rfl⟩
  · have hlogs : answers (events.map logTurn) = [] := by
      simp [answers, List.filterMap_map, Function.comp_def, logTurn, Turn.answer?]
    refine ⟨[], answer, ?_, by simp, ?_⟩
    · exact congrArg (answer :: ·) hlogs
    · cases looked .submission job.reference answer <;> rfl
  · refine ⟨[.error cause], answer, rfl, List.forall_mem_singleton.mpr ⟨cause, rfl, htaken⟩, ?_⟩
    cases looked .submission job.reference answer <;> rfl

/-- A submission does not look at the signal. -/
theorem submit_ignores_signal (hid : job.reference.id.text.isEmpty = false)
    (h : (submit project job).Ends ts submitted) : ∀ t ∈ ts, t.request.asksSignal = false := by
  obtain ⟨classified, hclassified, -⟩ := submit_ends_iff.mp h
  rcases (course_of_ends hid hclassified).asked with
    ⟨answer, events, rfl, -, -⟩ | ⟨cause, event, answer, rfl, -, -⟩
  · refine List.forall_mem_cons.mpr ⟨rfl, fun t ht => ?_⟩
    obtain ⟨event, -, rfl⟩ := List.mem_map.mp ht
    rfl
  · intro t ht
    simp only [List.mem_cons, List.not_mem_nil, or_false] at ht
    rcases ht with rfl | rfl | rfl <;> rfl

end Submission

/-! ## Waits -/

namespace Exporter

/-- What an export comes to, once its wait for a job is over. -/
def concluded (handle : JobHandle) : Except Fault WaitOutcome → Except Fault JobHandle
  | .ok (.completed finished) => ending finished
  | .ok .cancelled => .error (.cancelled handle.reference.id.text)
  | .error fault => .error fault

variable {e : Exporter} {rounds : Nat} {project : ProjectId} {watcher : Watcher}
  {started : Nanos} {task : JobTask} {ts : List (Turn WorkSignature)} {handle : JobHandle}
  {result : Except Fault JobHandle}

theorem await_watched (h : (e.await rounds project started handle watcher.onTick).Ends ts result) :
    ∃ outcome, Waiting.Watched handle.reference (looks ts) outcome ∧
      result = concluded handle outcome := by
  unfold await at h
  obtain ⟨us, outcome, vs, rfl, hwait, hrest⟩ := ends_bind_iff.mp h
  have hlast : (∀ t ∈ vs, t.isLocal = true) ∧ (Program.done result : Work _).Concludes
      (· = concluded handle outcome) := by
    refine Concludes.goes ?_ hrest
    cases outcome with
    | error fault => rfl
    | ok outcome =>
      cases outcome with
      | cancelled => rfl
      | completed finished => exact finish_concludes started finished
  refine ⟨outcome, ?_, hlast.2⟩
  rw [looks_append, looks_of_local hlast.1, List.append_nil]
  exact Waiting.watched_of_ends hwait

/-- After its submission, an export that waits is settled by the looks of the wait. -/
theorem followUp_watched
    (h : (e.followUp rounds project started task true watcher handle).Ends ts result) :
    ∃ outcome, Waiting.Watched handle.reference (looks ts) outcome ∧
      result = concluded handle outcome := by
  obtain ⟨rest, rfl, hrest⟩ := Work.ends_log_iff.mp h
  rw [if_pos rfl] at hrest
  show ∃ outcome, Waiting.Watched handle.reference (looks rest) outcome ∧ _
  exact await_watched hrest

end Exporter
end WarehouseJobs
