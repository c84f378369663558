-- An export over the web. What is exchanged carries the answers, one after the other: each of them
-- is what the last reply to its tries means, and all replies before that one were busy. So what an
-- export comes to can be read off its exchanges. Nobody looks at the signal before the submission
-- is over.
import WarehouseJobs.Proofs.Export.Answers
import WarehouseJobs.Proofs.Export.Location
import WarehouseJobs.Proofs.Http.Amplification

namespace WarehouseJobs.Client

open Program Submission

/-! ## Exchanges that carry answers -/

/-- These exchanges carry these answers. A request that cannot be put together is not sent at all,
and its answer is busy. -/
inductive Carries :
    List (HttpRequest × Reply) → List (Except RemoteFault JobHandle) → Prop
  | nothing : Carries [] []
  | unsent {xs : List (HttpRequest × Reply)} {answer : Except RemoteFault JobHandle}
      {said : List (Except RemoteFault JobHandle)} : Busy answer → Carries xs said →
      Carries xs (answer :: said)
  | sent {lost : List Reply} {request : HttpRequest} {reply : Reply}
      {xs : List (HttpRequest × Reply)} {said : List (Except RemoteFault JobHandle)} :
      (∀ l ∈ lost, Busy (shown l)) → Carries xs said →
      Carries ((lost ++ [reply]).map (request, ·) ++ xs) (shown reply :: said)

variable {c : Client} {xs ys : List (HttpRequest × Reply)}
  {said said' : List (Except RemoteFault JobHandle)} {answer : Except RemoteFault JobHandle}
  {us : List (Turn WorkSignature)} {ts : List (Turn HttpSignature)}

namespace Carries

theorem append (h : Carries xs said) (h' : Carries ys said') :
    Carries (xs ++ ys) (said ++ said') := by
  induction h with
  | nothing => exact h'
  | unsent hbusy _ ih => exact .unsent hbusy ih
  | sent hlost _ ih =>
    rw [List.append_assoc]
    exact .sent hlost ih

/-- A reply is busy, or it is one of the answers. -/
theorem read (h : Carries xs said) : ∀ x ∈ xs, Busy (shown x.2) ∨ shown x.2 ∈ said := by
  induction h with
  | nothing => simp
  | unsent _ _ ih => exact fun x hx => (ih x hx).imp_right (List.mem_cons_of_mem _)
  | @sent lost request reply xs said hlost _ ih =>
    intro x hx
    rcases List.mem_append.mp hx with hx | hx
    · obtain ⟨l, hl, rfl⟩ := List.mem_map.mp hx
      rcases List.mem_append.mp hl with hl | hl
      · exact .inl (hlost l hl)
      · rw [List.mem_singleton.mp hl]
        exact .inr List.mem_cons_self
    · exact (ih x hx).imp_right (List.mem_cons_of_mem _)

/-- If the last answer is not busy, it is what the last reply means. -/
theorem last (h : Carries xs (said ++ [answer])) (hanswer : ¬ Busy answer) :
    ∃ ys request reply, xs = ys ++ [(request, reply)] ∧ shown reply = answer ∧
      ∀ y ∈ ys, Busy (shown y.2) ∨ shown y.2 ∈ said := by
  induction said generalizing xs with
  | nil =>
    cases h with
    | unsent hbusy => exact absurd hbusy hanswer
    | @sent lost request reply xs _ hlost h =>
      cases h
      refine ⟨lost.map (request, ·), request, reply, by simp, rfl, fun y hy => ?_⟩
      obtain ⟨l, hl, rfl⟩ := List.mem_map.mp hy
      exact .inl (hlost l hl)
  | cons first said ih =>
    cases h with
    | unsent _ h =>
      obtain ⟨ys, request, reply, rfl, hreply, hys⟩ := ih h
      exact ⟨ys, request, reply, rfl, hreply,
        fun y hy => (hys y hy).imp_right (List.mem_cons_of_mem _)⟩
    | @sent lost request' reply' xs _ hlost h =>
      obtain ⟨ys, request, reply, rfl, hreply, hys⟩ := ih h
      refine ⟨(lost ++ [reply']).map (request', ·) ++ ys, request, reply,
        (List.append_assoc ..).symm, hreply, ?_⟩
      have hfirst : Carries ((lost ++ [reply']).map (request', ·) ++ []) [shown reply'] :=
        .sent hlost .nothing
      intro y hy
      rcases List.mem_append.mp hy with hy | hy
      · rcases hfirst.read y (by simpa using hy) with hbusy | hsaid
        · exact .inl hbusy
        · exact .inr (List.mem_singleton.mp hsaid ▸ List.mem_cons_self)
      · exact (hys y hy).imp_right (List.mem_cons_of_mem _)

end Carries

/-! ## The exchanges of a program -/

theorem carries_of_tries {event : LogEvent} {request : Except ConnectionFault HttpRequest}
    (h : (Http.log event >>= fun _ => c.withRetries
      (exchange request Wire.Job.ofJson? Wire.Job.handle)).Ends ts answer) :
    Carries (exchanges ts) [answer] := by
  rcases tried_or_unsent h with ⟨sent, -, htried⟩ | ⟨fault, -, hnone, rfl⟩
  · obtain ⟨lost, reply, hxs, rfl, hlost, -⟩ := htried.split
    rw [hxs, ← List.append_nil (List.map _ _)]
    exact .sent hlost .nothing
  · rw [hnone]
    exact .unsent ⟨_, rfl, rfl⟩ .nothing

/-- Of the service, only jobs are asked for. -/
def AboutJobs (r : WorkRequest) : Prop := ∀ reference, r ≠ .table reference

theorem carries_of_turn {t : Turn WorkSignature} (ht : AboutJobs t.request)
    (h : (c.serve t.request).Ends ts t.answer) : Carries (exchanges ts) (answers [t]) := by
  obtain ⟨r, a⟩ := t
  cases r with
  | create project job => exact carries_of_tries h
  | get project id location => exact carries_of_tries h
  | table reference => exact absurd rfl (ht reference)
  | locally r =>
    obtain ⟨_, _, rfl, hdone⟩ := ends_ask_iff.mp h
    obtain ⟨rfl, -⟩ := ends_done_iff.mp hdone
    exact .nothing

theorem carries_of_relayed (h : Relayed c.serve us ts) (hus : ∀ t ∈ us, AboutJobs t.request) :
    Carries (exchanges ts) (answers us) := by
  induction h with
  | nil => exact .nothing
  | @cons t us vs ws hends _ ih =>
    obtain ⟨ht, hus⟩ := List.forall_mem_cons.mp hus
    rw [exchanges_append, show answers (t :: us) = answers [t] ++ answers us from
      answers_append [t] us]
    exact (carries_of_turn ht hends).append (ih hus)

/-! ## Deafness -/

/-- In these turns, nobody looks at the signal. -/
def Deaf (ts : List (Turn HttpSignature)) : Prop := ∀ t ∈ ts, t.request.asksSignal = false

theorem exchange_ignores_signal {α β : Type} (request : Except ConnectionFault HttpRequest)
    (read : Json → Option α) (value : α → UInt16 → Except RemoteFault β) :
    (exchange request read value).AsksOnly (HttpStep.asksSignal · = false) := by
  cases request with
  | error fault => trivial
  | ok request =>
    refine ⟨rfl, fun reply => ?_⟩
    cases reply <;> trivial

theorem retrying_ignores_signal {α : Type} {s : RetrySettings}
    {operation : Http (Except RemoteFault α)}
    (h : operation.AsksOnly (HttpStep.asksSignal · = false)) (left tried : Nat) (delay : UInt64) :
    (retrying s operation left tried delay).AsksOnly (HttpStep.asksSignal · = false) := by
  induction left generalizing tried delay with
  | zero => exact h
  | succ left ih =>
    refine h.bind fun outcome => ?_
    cases outcome with
    | ok a => trivial
    | error fault =>
      show (if fault.classify = .transient then _ else _ : Http _).AsksOnly _
      split
      · exact ⟨rfl, fun _ => ⟨rfl, fun _ => ⟨rfl, fun _ => ih _ _⟩⟩⟩
      · trivial

/-- To carry out a request over the web takes no look at the signal, unless that is the request. -/
theorem serve_ignores_signal {r : WorkRequest} (h : r.asksSignal = false) :
    (c.serve r).AsksOnly (HttpStep.asksSignal · = false) := by
  cases r with
  | locally r => exact ⟨h, fun _ => trivial⟩
  | create | get | table =>
    exact ⟨rfl, fun _ => retrying_ignores_signal (exchange_ignores_signal _ _ _) _ _ _⟩

theorem deaf_of_relayed (h : Relayed c.serve us ts)
    (hus : ∀ t ∈ us, t.request.asksSignal = false) : Deaf ts := by
  induction h with
  | nil => simp [Deaf]
  | cons hends _ ih =>
    obtain ⟨ht, hus⟩ := List.forall_mem_cons.mp hus
    exact List.forall_mem_append.mpr ⟨((serve_ignores_signal ht).goes hends).1, ih hus⟩

/-! ## Exports -/

/-- The turns of an export of `job`, and what it comes to. -/
inductive Exported (c : Client) (project : ProjectId) (job : JobReference) :
    Bool → List (Turn HttpSignature) → Except Fault JobHandle → Prop
  /-- The submission failed. -/
  | refused {wait : Bool} {ts : List (Turn HttpSignature)}
      {said : List (Except RemoteFault JobHandle)} {last : Except RemoteFault JobHandle}
      {fault : Fault} : Carries (exchanges ts) (said ++ [last]) → (∀ answer ∈ said, Taken answer) →
      looked .submission job last = .error fault →
      Exported c project job wait ts (.error fault)
  /-- The submission gave a job, and nobody waits for it. -/
  | atOnce {ts : List (Turn HttpSignature)} {said : List (Except RemoteFault JobHandle)}
      {handle : JobHandle} : Carries (exchanges ts) (said ++ [.ok handle]) →
      (∀ answer ∈ said, Taken answer) → job.sameJob handle.reference = true →
      Exported c project job false ts (.ok handle)
  /-- The submission gave a job, and then there were looks at it. -/
  | watched {ts ts' : List (Turn HttpSignature)}
      {said looks : List (Except RemoteFault JobHandle)} {handle : JobHandle}
      {outcome : Except Fault WaitOutcome} : Carries (exchanges ts) (said ++ [.ok handle]) →
      (∀ answer ∈ said, Taken answer) → job.sameJob handle.reference = true → Deaf ts →
      Carries (exchanges ts') looks →
      (∀ x ∈ exchanges ts', c.look project handle.reference = .ok x.1) →
      Waiting.Watched handle.reference looks outcome →
      Exported c project job true (ts ++ ts') (Exporter.concluded handle outcome)

variable {e : Exporter} {rounds : Nat} {project : ProjectId} {source : TableReference}
  {destinations : List Destination} {wait : Bool} {watcher : Watcher} {job : JobDescription}
  {reference : JobReference} {result : Except Fault JobHandle}

theorem aboutJobs_of_asked {r : WorkRequest} (h : Asked project job r) : AboutJobs r := by
  rintro table rfl
  rcases h with h | h
  · cases h
  · exact h

theorem aboutJobs_of_looksUnder {r : WorkRequest} (h : LooksUnder project reference r) :
    AboutJobs r := by
  rintro table rfl
  exact h

theorem Exported.aside {r : LocalRequest} {a : r.Answer} (hr : r.asksSignal = false)
    (h : Exported c project reference wait ts result) :
    Exported c project reference wait (⟨.locally r, a⟩ :: ts) result := by
  cases h with
  | refused hxs hsaid hlast => exact .refused hxs hsaid hlast
  | atOnce hxs hsaid hsame => exact .atOnce hxs hsaid hsame
  | watched hxs hsaid hsame hdeaf hys hlook hwatched =>
    rw [← List.cons_append]
    exact .watched hxs hsaid hsame (List.forall_mem_cons.mpr ⟨hr, hdeaf⟩) hys hlook hwatched

theorem exported_of_carryOut (hid : job.reference.id.text.isEmpty = false)
    (hends : (e.carryOut rounds project job wait watcher).Ends us result)
    (h : Relayed c.serve us ts) :
    Exported c project job.reference wait ts result := by
  obtain ⟨started, submission, submitted, vs, rfl, hsubmit, hrest⟩ := Exporter.carryOut_ends hends
  obtain ⟨rest, rfl, hrelayed⟩ := relayed_locally h
  refine Exported.aside rfl ?_
  obtain ⟨ts, ts', rfl, hsubmission, hfollow⟩ := hrelayed.split
  obtain ⟨said, last, hanswers, htaken, rfl⟩ := submit_answers hid hsubmit
  have hcarries := carries_of_relayed hsubmission fun t ht =>
    aboutJobs_of_asked (((submit_asksOnly hid).goes hsubmit).1 t ht)
  rw [hanswers] at hcarries
  cases hlooked : looked .submission job.reference last with
  | error fault =>
    rw [hlooked] at hrest
    obtain ⟨rfl, rfl⟩ := hrest
    cases hfollow
    rw [List.append_nil]
    exact .refused hcarries htaken hlooked
  | ok handle =>
    obtain ⟨rfl, hsame⟩ := looked_eq_ok hlooked
    rw [hlooked] at hrest
    have hlooks := (Exporter.followUp_asksOnly.goes hrest).1
    cases wait with
    | false =>
      obtain ⟨_, rfl, hdone⟩ := Work.ends_log_iff.mp hrest
      obtain ⟨rfl, rfl⟩ := ends_done_iff.mp hdone
      obtain ⟨_, rfl, hover⟩ := relayed_locally hfollow
      cases hover
      refine .atOnce ?_ htaken hsame
      rw [exchanges_append]
      show Carries (exchanges ts ++ []) (said ++ [.ok handle])
      rwa [List.append_nil]
    | true =>
      obtain ⟨outcome, hwatched, rfl⟩ := Exporter.followUp_watched hrest
      have hcarries' := carries_of_relayed hfollow fun t ht => aboutJobs_of_looksUnder (hlooks t ht)
      rw [answers_of_looksUnder hlooks] at hcarries'
      exact .watched hcarries htaken hsame
        (deaf_of_relayed hsubmission (submit_ignores_signal hid hsubmit)) hcarries'
        (exchanges_of_relayed hfollow hlooks).2.1 hwatched

/-- An export over the web fails before it sends anything, or it has drawn the id of its job. -/
theorem exported_of_run (h : (c.overHttp
      (e.run rounds project source destinations wait watcher.onTick)).Ends ts result) :
    (exchanges ts = [] ∧ ∃ cause, result = .error (.argument cause)) ∨
      ∃ u, ⟨.locally .draw, u⟩ ∈ ts ∧
        Exported c project (e.asked project u) wait ts result := by
  obtain ⟨us, hends, hrelayed⟩ := ends_translate_iff.mp h
  by_cases hd : destinations = []
  · subst hd
    obtain ⟨rfl, rfl⟩ := ends_done_iff.mp hends
    cases hrelayed
    exact .inl ⟨rfl, _, rfl⟩
  · have hrun := hends
    rw [Exporter.run_eq hd] at hrun
    obtain ⟨u, us, rfl, -⟩ := Work.ends_draw_iff.mp hrun
    obtain ⟨ts, rfl, hrest⟩ := relayed_locally hrelayed
    rcases e.rules.generate_cases project.text e.idPrefix u with ⟨cause, hgen⟩ | hgen
    · obtain ⟨rfl, hdone⟩ := Exporter.run_of_refused hd hgen hends
      cases hdone
      cases hrest
      exact .inl ⟨rfl, cause, rfl⟩
    · have hcarry := (Exporter.run_goes_iff hd hgen).mp hends
      have hexported : Exported c project (e.asked project u) wait ts result :=
        exported_of_carryOut (newId_ne_empty _ _) hcarry hrest
      exact .inr ⟨u, List.mem_cons_self, hexported.aside rfl⟩

end WarehouseJobs.Client
