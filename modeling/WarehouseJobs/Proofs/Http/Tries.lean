-- Requests that are tried again. All tries send the same request, only busy answers lead to
-- another try, and a busy answer is the last one only when no try is left.
import WarehouseJobs.Http.Client
import WarehouseJobs.Proofs.Faults
import WarehouseJobs.Proofs.Programs.Requests

namespace WarehouseJobs.Client

open Program

/-! ## What goes over the wire -/

/-- What a request is answered. -/
abbrev Reply := Except ConnectionFault HttpAnswer

def sendTurn (request : HttpRequest) (reply : Reply) : Turn HttpSignature :=
  ⟨.send request, reply⟩

/-- The requests among the turns of a program, with their replies. -/
def exchanges (ts : List (Turn HttpSignature)) : List (HttpRequest × Reply) :=
  ts.filterMap fun
    | ⟨.send request, reply⟩ => some (request, reply)
    | ⟨.locally _, _⟩ => none

theorem exchanges_nil : exchanges [] = [] := rfl

theorem exchanges_send (request : HttpRequest) (reply : Reply) (ts : List (Turn HttpSignature)) :
    exchanges (sendTurn request reply :: ts) = (request, reply) :: exchanges ts := rfl

theorem exchanges_append (us vs : List (Turn HttpSignature)) :
    exchanges (us ++ vs) = exchanges us ++ exchanges vs := by
  simp [exchanges]

theorem mem_exchanges {request : HttpRequest} {reply : Reply} {ts : List (Turn HttpSignature)} :
    (request, reply) ∈ exchanges ts ↔ sendTurn request reply ∈ ts := by
  rw [exchanges, List.mem_filterMap]
  constructor
  · rintro ⟨⟨r, answer⟩, ht, h⟩
    cases r with
    | send sent =>
      obtain ⟨rfl, rfl⟩ := Prod.mk.inj (Option.some.inj h)
      exact ht
    | locally r => cases h
  · intro h
    exact ⟨_, h, rfl⟩

/-! ## One try -/

variable {α β : Type} {read : Json → Option α} {value : α → UInt16 → Except RemoteFault β}

/-- What a reply means. -/
def reading (read : Json → Option α) (value : α → UInt16 → Except RemoteFault β) :
    Reply → Except RemoteFault β
  | .error fault => .error fault.fault
  | .ok answer => meaning read value answer

/-- What a reply means to who asked for a job. -/
abbrev shown : Reply → Except RemoteFault JobHandle := reading Wire.Job.ofJson? Wire.Job.handle

theorem exchange_eq (request : HttpRequest) :
    exchange (.ok request) read value = (do
      let reply ← Http.send request
      pure (reading read value reply)) := by
  show Http.send request >>= _ = _
  congr 1
  funext reply
  cases reply <;> rfl

theorem ends_exchange_iff {γ : Type} {request : HttpRequest}
    {f : Except RemoteFault β → Http γ} {ts : List (Turn HttpSignature)} {c : γ} :
    (exchange (.ok request) read value >>= f).Ends ts c ↔
      ∃ reply rest, ts = sendTurn request reply :: rest ∧
        (f (reading read value reply)).Ends rest c := by
  rw [exchange_eq]
  exact Http.ends_send_iff

/-! ## Trying again -/

/-- The exchanges of a request that is tried up to `left` times more, and its result, where
`judged` tells what a reply means. -/
inductive Tried (request : HttpRequest) (judged : Reply → Except RemoteFault β) :
    Nat → List (HttpRequest × Reply) → Except RemoteFault β → Prop
  | last {left : Nat} {reply : Reply} : (Busy (judged reply) → left = 0) →
      Tried request judged left [(request, reply)] (judged reply)
  | again {left : Nat} {reply : Reply} {xs : List (HttpRequest × Reply)}
      {result : Except RemoteFault β} : Busy (judged reply) →
      Tried request judged left xs result →
      Tried request judged (left + 1) ((request, reply) :: xs) result

theorem tried_of_ends {s : RetrySettings} {request : HttpRequest} {left done : Nat}
    {delay : UInt64} {ts : List (Turn HttpSignature)} {result : Except RemoteFault β}
    (h : (retrying s (exchange (.ok request) read value) left done delay).Ends ts result) :
    Tried request (reading read value) left (exchanges ts) result := by
  induction left generalizing ts done delay with
  | zero =>
    rw [retrying, ← bind_done (exchange _ _ _), ← bind_eq, ends_exchange_iff] at h
    obtain ⟨reply, rest, rfl, h⟩ := h
    obtain ⟨rfl, rfl⟩ := ends_done_iff.mp h
    exact .last fun _ => rfl
  | succ left ih =>
    rw [retrying, ends_exchange_iff] at h
    obtain ⟨reply, rest, rfl, h⟩ := h
    rw [exchanges_send]
    cases hreply : reading read value reply with
    | ok b =>
      rw [hreply] at h
      obtain ⟨rfl, rfl⟩ := ends_done_iff.mp h
      rw [← hreply]
      exact .last fun hb => absurd (hreply ▸ hb) (not_busy_ok b)
    | error fault =>
      rw [hreply] at h
      simp only at h
      by_cases hc : fault.classify = .transient
      · rw [if_pos hc] at h
        rw [Http.ends_log_iff] at h
        obtain ⟨rest, rfl, h⟩ := h
        rw [Http.ends_sleep_iff] at h
        obtain ⟨time, rest, rfl, h⟩ := h
        -- Neither the remark nor the sleep goes over the wire.
        show Tried request _ (left + 1) ((request, reply) :: exchanges rest) result
        exact .again ⟨fault, hreply, hc⟩ (ih h)
      · rw [if_neg hc] at h
        obtain ⟨rfl, rfl⟩ := ends_done_iff.mp h
        rw [← hreply]
        exact .last fun hb => absurd (busy_error_iff.mp (hreply ▸ hb)) hc

/-- A client tells what it is about to do, and then tries. -/
theorem tried_of_logged {c : Client} {event : LogEvent} {request : HttpRequest}
    {ts : List (Turn HttpSignature)} {result : Except RemoteFault β}
    (h : (Http.log event >>= fun _ =>
      c.withRetries (exchange (.ok request) read value)).Ends ts result) :
    Tried request (reading read value) c.retry.maxRetries.toNat (exchanges ts) result := by
  rw [Http.ends_log_iff] at h
  obtain ⟨rest, rfl, hrest⟩ := h
  show Tried request _ _ (exchanges rest) result
  exact tried_of_ends hrest

theorem ends_of_unsent {s : RetrySettings} {fault : ConnectionFault} {left done : Nat}
    {delay : UInt64} {ts : List (Turn HttpSignature)} {result : Except RemoteFault β}
    (h : (retrying s (exchange (.error fault) read value) left done delay).Ends ts result) :
    exchanges ts = [] ∧ result = .error fault.fault := by
  induction left generalizing ts done delay with
  | zero =>
    obtain ⟨rfl, rfl⟩ := ends_done_iff.mp h
    exact ⟨rfl, rfl⟩
  | succ left ih =>
    have hagain : retrying s (exchange (.error fault) read value) (left + 1) done delay = (do
        Http.log (retryEvent s (done + 1) delay fault.fault)
        Http.sleep delay
        retrying s (exchange (.error fault) read value) left (done + 1) (nextDelay s delay)) := rfl
    rw [hagain, Http.ends_log_iff] at h
    obtain ⟨rest, rfl, h⟩ := h
    rw [Http.ends_sleep_iff] at h
    obtain ⟨time, rest, rfl, h⟩ := h
    show exchanges rest = [] ∧ result = .error fault.fault
    exact ih h

/-- What a client tries: either the request can be put together and is sent, or no try gets as far
as the wire. -/
theorem tried_or_unsent {c : Client} {event : LogEvent}
    {request : Except ConnectionFault HttpRequest} {ts : List (Turn HttpSignature)}
    {result : Except RemoteFault β}
    (h : (Http.log event >>= fun _ =>
      c.withRetries (exchange request read value)).Ends ts result) :
    (∃ sent, request = .ok sent ∧
      Tried sent (reading read value) c.retry.maxRetries.toNat (exchanges ts) result) ∨
    ∃ fault, request = .error fault ∧ exchanges ts = [] ∧ result = .error fault.fault := by
  cases request with
  | ok sent => exact .inl ⟨sent, rfl, tried_of_logged h⟩
  | error fault =>
    rw [Http.ends_log_iff] at h
    obtain ⟨rest, rfl, h⟩ := h
    refine .inr ⟨fault, rfl, ?_⟩
    show exchanges rest = [] ∧ result = .error fault.fault
    exact ends_of_unsent h

/-- All tries send the same request. All replies but the last one are busy, and the last one
is not, unless no try was left. -/
theorem Tried.split {request : HttpRequest} {judged : Reply → Except RemoteFault β} {left : Nat}
    {xs : List (HttpRequest × Reply)} {result : Except RemoteFault β}
    (h : Tried request judged left xs result) : ∃ lost reply,
      xs = (lost ++ [reply]).map (request, ·) ∧ result = judged reply ∧
      (∀ l ∈ lost, Busy (judged l)) ∧ (Busy result → lost.length = left) := by
  induction h with
  | @last left reply hlast =>
    exact ⟨[], reply, rfl, rfl, by simp, fun hb => (hlast hb).symm⟩
  | @again left first xs result hbusy _ ih =>
    obtain ⟨lost, reply, rfl, hresult, hlost, hlen⟩ := ih
    refine ⟨first :: lost, reply, rfl, hresult, List.forall_mem_cons.mpr ⟨hbusy, hlost⟩, ?_⟩
    intro hb
    rw [List.length_cons, hlen hb]

theorem Tried.request_eq {request : HttpRequest} {judged : Reply → Except RemoteFault β}
    {left : Nat} {xs : List (HttpRequest × Reply)} {result : Except RemoteFault β}
    (h : Tried request judged left xs result) : ∀ x ∈ xs, x.1 = request := by
  obtain ⟨lost, reply, rfl, -⟩ := h.split
  intro x hx
  obtain ⟨_, -, rfl⟩ := List.mem_map.mp hx
  rfl

/-- The first try is one of the request, too. -/
theorem Tried.first {request : HttpRequest} {judged : Reply → Except RemoteFault β}
    {left : Nat} {xs : List (HttpRequest × Reply)} {result : Except RemoteFault β}
    (h : Tried request judged left xs result) :
    ∃ reply rest, xs = (request, reply) :: rest := by
  cases h with
  | last _ => exact ⟨_, _, rfl⟩
  | again _ _ => exact ⟨_, _, rfl⟩

/-! ## Programs that end -/

theorem exchange_endsWithin (request : Except ConnectionFault HttpRequest) :
    (exchange request read value).EndsWithin 1 := by
  cases request with
  | error fault => trivial
  | ok request =>
    rw [exchange_eq]
    exact fun _ => trivial

theorem retrying_endsWithin {s : RetrySettings} {operation : Http (Except RemoteFault β)}
    (hop : operation.EndsWithin 1) (left done : Nat) (delay : UInt64) :
    (retrying s operation left done delay).EndsWithin (4 * left + 1) := by
  induction left generalizing done delay with
  | zero => exact hop
  | succ left ih =>
    rw [retrying, show 4 * (left + 1) + 1 = 1 + (4 * left + 1 + 3) by omega]
    refine hop.bind fun result => ?_
    cases result with
    | ok b => trivial
    | error fault =>
      simp only
      split
      · exact fun _ _ _ => ih _ _
      · trivial

/-- A request of a program takes a remark, and three turns besides each further try. -/
theorem serve_endsWithin (c : Client) (r : WorkRequest) :
    (c.serve r).EndsWithin (4 * c.retry.maxRetries.toNat + 2) := by
  have hretry : ∀ {α β : Type} {read : Json → Option α}
      {value : α → UInt16 → Except RemoteFault β} (request : Except ConnectionFault HttpRequest),
      (c.withRetries (exchange request read value)).EndsWithin
        (4 * c.retry.maxRetries.toNat + 1) := fun request =>
    retrying_endsWithin (exchange_endsWithin request) _ _ _
  cases r with
  | create project job => exact fun _ => hretry _
  | get project id location => exact fun _ => hretry _
  | table reference => exact fun _ => hretry _
  | locally r => exact fun _ => trivial

end WarehouseJobs.Client
