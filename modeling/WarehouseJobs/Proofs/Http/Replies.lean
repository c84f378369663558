-- What the replies of a server that keeps jobs apart mean to a client, and how replies get
-- lost on the way. A reply that is lost always reads as a fault worth another try.
import WarehouseJobs.Proofs.Http.Tries

namespace WarehouseJobs.Client

/-! ## Kinds of reply -/

/-- The reply of the server did not arrive: the connection broke, perhaps in the middle of the
body, or something on the way said that it is busy, and not in JSON. -/
inductive Lost : Reply → Prop
  | broken (fault : ConnectionFault) : Lost (.error fault)
  | cut {answer : HttpAnswer} : isSuccess answer.status = true → answer.text? = none →
      Lost (.ok answer)
  | busy {answer : HttpAnswer} : answer.status ∈ RemoteFault.busyStatuses →
      Json.ofText? (answer.text?.getD "") = none → Lost (.ok answer)

/-- The server says that there is such a job. A body of the agreed form says the same. -/
inductive Conflict : Reply → Prop
  | taken {answer : HttpAnswer} : answer.status = 409 →
      (∀ body code, Wire.FaultBody.ofText? (answer.text?.getD "") = some body →
        body.code = some code → code = 409) → Conflict (.ok answer)

/-- The server shows a job of the identity of `reference`. -/
inductive Shows (reference : JobReference) : Reply → Prop
  | inBody {answer : HttpAnswer} {text : String} {json : Json} {job : Wire.Job}
      {handle : JobHandle} : isSuccess answer.status = true → answer.text? = some text →
      Json.ofText? text = some json → Wire.Job.ofJson? json = some job →
      job.handle answer.status = .ok handle →
      reference.sameJob handle.reference = true → Shows reference (.ok answer)

/-! ## What they mean -/

variable {α β : Type} {read : Json → Option α} {value : α → UInt16 → Except RemoteFault β}
  {reply : Reply}

theorem isSuccess_of_busy {status : UInt16} (h : status ∈ RemoteFault.busyStatuses) :
    isSuccess status = false := by
  rcases RemoteFault.mem_busyStatuses.mp h with rfl | rfl | rfl | rfl | rfl | rfl <;> rfl

theorem faultBody_of_not_json {body : String} (h : Json.ofText? body = none) :
    Wire.FaultBody.ofText? body = none := by
  unfold Wire.FaultBody.ofText?
  rw [h]
  rfl

theorem Lost.reads_busy (h : Lost reply) : Busy (reading read value reply) := by
  cases h with
  | broken fault => exact ⟨_, rfl, rfl⟩
  | @cut answer hsuccess hcut =>
    refine ⟨.ofTransport "failed to read response body", ?_, rfl⟩
    simp only [reading, meaning, hsuccess, if_true, hcut]
  | @busy answer hstatus hjson =>
    refine ⟨.ofStatus answer.status (answer.text?.getD ""), ?_,
      RemoteFault.classify_of_busyStatus hstatus _ _⟩
    simp only [reading, meaning, isSuccess_of_busy hstatus, Wire.faultOf,
      faultBody_of_not_json hjson]
    rfl

theorem Conflict.reads_taken (h : Conflict reply) :
    ∃ fault : RemoteFault, reading read value reply = .error fault ∧
      fault.status = some 409 := by
  cases h with
  | @taken answer hstatus hcode =>
    refine ⟨Wire.faultOf answer.status (answer.text?.getD ""), ?_, ?_⟩
    · simp only [reading, meaning, hstatus]
      rfl
    · unfold Wire.faultOf
      rw [hstatus]
      cases hbody : Wire.FaultBody.ofText? (answer.text?.getD "") with
      | none => rfl
      | some body =>
        cases hgiven : body.code with
        | none => simp [hgiven]
        | some code => simp [hgiven, hcode body code hbody hgiven]

theorem Shows.reads_handle {reference : JobReference} (h : Shows reference reply) :
    ∃ handle : JobHandle, shown reply = .ok handle ∧
      reference.sameJob handle.reference = true := by
  cases h with
  | @inBody answer text json job handle hsuccess htext hjson hjob hhandle same =>
    refine ⟨handle, ?_, same⟩
    simp only [shown, reading, meaning, hsuccess, if_true, htext, hjson, Option.bind_some, hjob,
      hhandle]

/-- The least that a server has to say about a job. -/
example : (shown (.ok ⟨200, some ("\x7b\"jobReference\": [\"demo\", \"nightly\"], " ++
    "\"status\": [\"PENDING\"]\x7d")⟩)).toOption.map JobHandle.reference =
      some { project := ⟨"demo"⟩, id := ⟨"nightly"⟩ } := by decide +kernel

/-- A submission that meets a conflict does not take it for busy. -/
theorem Conflict.not_busy (h : Conflict reply) : ¬ Busy (reading read value reply) := by
  obtain ⟨fault, hread, hstatus⟩ : ∃ fault : RemoteFault,
    reading read value reply = .error fault ∧ fault.status = some 409 := h.reads_taken
  rw [hread, busy_error_iff, RemoteFault.classify_of_conflict hstatus]
  nofun

theorem Shows.not_conflict {reference : JobReference} (h : Shows reference reply) :
    ¬ Conflict reply := by
  intro hc
  obtain ⟨handle, hshown, _⟩ := h.reads_handle
  obtain ⟨fault, hread, _⟩ : ∃ fault : RemoteFault, shown reply = .error fault ∧
    fault.status = some 409 := hc.reads_taken
  rw [hread] at hshown
  cases hshown

theorem Shows.not_busy {reference : JobReference} (h : Shows reference reply) :
    ¬ Busy (shown reply) := by
  obtain ⟨handle, hread, _⟩ := h.reads_handle
  rw [hread]
  exact not_busy_ok handle

theorem Shows.not_lost {reference : JobReference} (h : Shows reference reply) : ¬ Lost reply :=
  fun hlost => h.not_busy hlost.reads_busy

end WarehouseJobs.Client
