-- How many requests a wait sends over the web. A client tries each look again, and the wait looks
-- again when all tries have failed, so the two allowances multiply. Nothing else adds to them but
-- redirections, each of which adds one request on the wire.
import WarehouseJobs.Proofs.Http.Places
import WarehouseJobs.Proofs.Http.Redirects
import WarehouseJobs.Proofs.Http.Submitters
import WarehouseJobs.Proofs.Waiting.Pacing

namespace WarehouseJobs.Client

open Program Waiting

variable {α β : Type} {K : HttpRequest → Prop} {m n : Nat} {c : Client} {project : ProjectId}
  {reference : JobReference} {us : List (Turn WorkSignature)} {ts : List (Turn HttpSignature)}

/-- The request of a look at a job. -/
def look (c : Client) (project : ProjectId) (reference : JobReference) :
    Except ConnectionFault HttpRequest :=
  c.jobRequest project reference.id reference.location

/-- How many of the replies say that the job of a reference has not ended. -/
def unfinished (reference : JobReference) (ts : List (Turn HttpSignature)) : Nat :=
  (exchanges ts).countP fun x => isUnfinished reference (shown x.2)

/-! ## At most so many requests -/

/-- Whatever it is answered, a program sends at most so many requests, and all of this kind. -/
def SendsWithin (K : HttpRequest → Prop) : Nat → Http α → Prop
  | _, .done _ => True
  | n, .ask (.send request) next => K request ∧ 0 < n ∧ ∀ reply, SendsWithin K (n - 1) (next reply)
  | n, .ask (.locally _) next => ∀ answer, SendsWithin K n (next answer)
  | _, .pending => True

theorem SendsWithin.mono {p : Http α} (h : SendsWithin K m p) (hmn : m ≤ n) :
    SendsWithin K n p := by
  induction p generalizing m n with
  | done a => trivial
  | pending => trivial
  | ask r next ih =>
    cases r with
    | send request =>
      obtain ⟨hK, hm, hnext⟩ := h
      exact ⟨hK, by omega, fun reply => ih reply (hnext reply) (by omega)⟩
    | locally r => exact fun answer => ih answer (h answer) hmn

theorem SendsWithin.goes {p q : Http α} (h : SendsWithin K n p) (hgoes : p.Goes ts q) :
    (exchanges ts).length ≤ n ∧ ∀ x ∈ exchanges ts, K x.1 := by
  induction hgoes generalizing n with
  | here p => exact ⟨Nat.zero_le n, by simp [exchanges_nil]⟩
  | @turn r next a ts q _ ih =>
    cases r with
    | send request =>
      obtain ⟨hK, hn, hnext⟩ := h
      obtain ⟨hlen, hall⟩ := ih (hnext a)
      have hone : (exchanges ts).length + 1 ≤ n := by omega
      exact ⟨hone, List.forall_mem_cons.mpr ⟨hK, hall⟩⟩
    | locally r => exact ih (h a)

theorem SendsWithin.bind {f : α → Http β} {p : Http α} (hp : SendsWithin K m p)
    (hf : ∀ a, SendsWithin K n (f a)) : SendsWithin K (m + n) (p >>= f) := by
  show SendsWithin K (m + n) (Program.bind p f)
  induction p generalizing m with
  | done a => exact (hf a).mono (Nat.le_add_left n m)
  | pending => trivial
  | ask r next ih =>
    cases r with
    | send request =>
      obtain ⟨hK, hm, hnext⟩ := hp
      refine ⟨hK, by omega, fun reply => ?_⟩
      rw [Nat.sub_add_comm hm]
      exact ih reply (hnext reply)
    | locally r => exact fun answer => ih answer (hp answer)

theorem exchange_sendsWithin {read : Json → Option α}
    {value : α → UInt16 → Except RemoteFault β} (request : Except ConnectionFault HttpRequest) :
    SendsWithin (fun sent => request = .ok sent) 1 (exchange request read value) := by
  cases request with
  | error fault => trivial
  | ok request =>
    rw [exchange_eq]
    exact ⟨rfl, Nat.one_pos, fun _ => trivial⟩

/-- Each try that is left adds one to what is sent. -/
theorem retrying_sendsWithin {s : RetrySettings} {operation : Http (Except RemoteFault β)}
    (hop : SendsWithin K 1 operation) (left done : Nat) (delay : UInt64) :
    SendsWithin K (left + 1) (retrying s operation left done delay) := by
  induction left generalizing done delay with
  | zero => exact hop
  | succ left ih =>
    rw [retrying, Nat.add_comm]
    refine hop.bind fun result => ?_
    cases result with
    | ok b => trivial
    | error fault =>
      simp only
      split
      · exact fun _ _ _ => ih _ _
      · trivial

/-- What a wait asks for is sent only if it is a look, and then as often as a client tries. -/
theorem serve_sendsWithin {r : WorkRequest} (hr : LooksUnder project reference r) :
    SendsWithin (fun sent => c.look project reference = .ok sent)
      (if WorkRequest.isLocal r then 0 else c.retry.maxRetries.toNat + 1) (c.serve r) := by
  cases r with
  | get project' id location =>
    obtain ⟨rfl, rfl, rfl⟩ := hr
    exact fun _ => retrying_sendsWithin (exchange_sendsWithin _) _ _ _
  | locally r => exact fun _ => trivial
  | create => exact hr.elim
  | table => exact hr.elim

/-- A look that found the job unfinished was told so in one of the replies. -/
theorem unfinished_of_get {answer : Except RemoteFault JobHandle}
    (h : (c.get project reference.id reference.location).Ends ts answer)
    (hanswer : isUnfinished reference answer = true) : 0 < unfinished reference ts := by
  rcases tried_or_unsent h with ⟨sent, -, htried⟩ | ⟨fault, -, -, rfl⟩
  · obtain ⟨lost, reply, hxs, rfl, -⟩ := htried.split
    rw [unfinished, hxs]
    exact List.countP_pos_iff.mpr ⟨(sent, reply), by simp, hanswer⟩
  · cases hanswer

/-- A turn of a wait over the web. -/
theorem exchanges_of_turn {t : Turn WorkSignature} (ht : LooksUnder project reference t.request)
    (h : (c.serve t.request).Ends ts t.answer) :
    (exchanges ts).length ≤ (looks [t]).length * (c.retry.maxRetries.toNat + 1) ∧
      (∀ x ∈ exchanges ts, c.look project reference = .ok x.1) ∧
      (looks [t]).countP (isUnfinished reference) ≤ unfinished reference ts := by
  obtain ⟨hlen, hall⟩ := (serve_sendsWithin (c := c) ht).goes h
  obtain ⟨r, answer⟩ := t
  cases r with
  | get project' id location =>
    obtain ⟨rfl, rfl, rfl⟩ := ht
    change Except RemoteFault JobHandle at answer
    change _ ≤ c.retry.maxRetries.toNat + 1 at hlen
    change _ ≤ [answer].length * _ ∧ _ ∧ [answer].countP _ ≤ _
    rw [List.length_singleton, Nat.one_mul, List.countP_singleton]
    refine ⟨hlen, hall, ?_⟩
    split
    · exact unfinished_of_get h ‹_›
    · exact Nat.zero_le _
  | locally r => exact ⟨Nat.le_trans hlen (Nat.zero_le _), hall, Nat.zero_le _⟩
  | create => exact ht.elim
  | table => exact ht.elim

/-- The turns of a wait over the web: each look has its tries, and nothing else is sent. -/
theorem exchanges_of_relayed (h : Relayed c.serve us ts)
    (hus : ∀ t ∈ us, LooksUnder project reference t.request) :
    (exchanges ts).length ≤ (looks us).length * (c.retry.maxRetries.toNat + 1) ∧
      (∀ x ∈ exchanges ts, c.look project reference = .ok x.1) ∧
      (looks us).countP (isUnfinished reference) ≤ unfinished reference ts := by
  induction h with
  | nil => exact ⟨Nat.zero_le _, by simp [exchanges_nil], Nat.zero_le _⟩
  | @cons t us vs ws hends _ ih =>
    obtain ⟨ht, hus⟩ := List.forall_mem_cons.mp hus
    obtain ⟨hlen, hall, hcount⟩ := ih hus
    obtain ⟨hlen', hall', hcount'⟩ := exchanges_of_turn ht hends
    rw [show looks (t :: us) = looks [t] ++ looks us from looks_append [t] us]
    simp only [unfinished, exchanges_append, List.length_append, List.countP_append, Nat.add_mul,
      List.forall_mem_append] at hcount hcount' ⊢
    exact ⟨Nat.add_le_add hlen' hlen, ⟨hall', hall⟩, Nat.add_le_add hcount' hcount⟩

/-- A server that answers the requests in turn, in surroundings that do not disturb a wait. It
counts the requests. -/
def server (replies : Nat → Reply) : Responder HttpSignature where
  State := Nat
  Answers n
    | .send _, reply, n' => reply = replies n ∧ n' = n + 1
    | .locally r, a, n' => Undisturbed r a ∧ n' = n

variable {replies : Nat → Reply} {request : HttpRequest}

variable {going : Reply} {limit k j : Nat}

variable {carrier : Carrier} {ws : List (Turn WireSignature)} {answered : Nat → WireReply}

/-- A server that runs a job and says so. -/
def running : Reply := .ok ⟨200, some ("\x7b\"jobReference\": [\"demo\", \"nightly\"], " ++
  "\"status\": [\"RUNNING\"]\x7d")⟩

end WarehouseJobs.Client
