-- The attempts of a request, whether or not it gets as far as the wire. They go on as long as their
-- outcomes are busy and the settings allow another one, with one pause between each two; and the
-- outcome of the last attempt is the outcome of the request.
import Mathlib.Data.ENat.Lattice
import Mathlib.Data.Stream.Defs
import WarehouseJobs.Proofs.Http.Delays
import WarehouseJobs.Proofs.Http.Places
import WarehouseJobs.Proofs.Http.Submitters

namespace WarehouseJobs.Client

open Program

variable {α β : Type} {read : Json → Option α} {value : α → UInt16 → Except RemoteFault β}
  {s : RetrySettings} {request : Except ConnectionFault HttpRequest}
  {judged : Reply → Except RemoteFault β} {replies : Nat → Reply} {times : Nat → Nanos}
  {n left done : Nat} {delay : UInt64} {ts : List (Turn HttpSignature)}
  {result : Except RemoteFault β}

/-! ## Outcomes in a row -/

/-- The place of the first outcome that is not worth another attempt, infinite if there is none. -/
noncomputable def firstSettled (outcomes : Nat → Except RemoteFault β) : ℕ∞ :=
  ⨅ (n : Nat) (_ : ¬ Busy (outcomes n)), (n : ℕ∞)

/-- With so many attempts left behind the first one, the attempt at place `n` is the last one. -/
structure LastAttempt (left : Nat) (outcomes : Nat → Except RemoteFault β) (n : Nat) : Prop where
  before : ∀ i < n, Busy (outcomes i)
  allowed : n ≤ left
  last : Busy (outcomes n) → n = left

theorem firstSettled_le {outcomes : Nat → Except RemoteFault β} (h : ¬ Busy (outcomes n)) :
    firstSettled outcomes ≤ n := iInf₂_le n h

theorem le_firstSettled_iff {outcomes : Nat → Except RemoteFault β} :
    (n : ℕ∞) ≤ firstSettled outcomes ↔ ∀ i < n, Busy (outcomes i) := by
  unfold firstSettled
  simp only [le_iInf_iff, Nat.cast_le]
  constructor
  · intro h i hi
    by_contra hbusy
    exact absurd (h i hbusy) (Nat.not_le_of_lt hi)
  · intro h i hbusy
    by_contra hi
    exact hbusy (h i (Nat.lt_of_not_le hi))

theorem lastAttempt_iff {outcomes : Nat → Except RemoteFault β} :
    LastAttempt left outcomes n ↔ (n : ℕ∞) = min (firstSettled outcomes) left := by
  constructor
  · rintro ⟨hbefore, hallowed, hlast⟩
    apply le_antisymm
    · exact le_min (le_firstSettled_iff.mpr hbefore) (Nat.cast_le.mpr hallowed)
    · by_cases hbusy : Busy (outcomes n)
      · rw [hlast hbusy]
        exact min_le_right _ _
      · exact (min_le_left _ _).trans (firstSettled_le hbusy)
  · intro h
    have hle := le_min_iff.mp h.le
    have hallowed : n ≤ left := Nat.cast_le.mp hle.2
    refine ⟨le_firstSettled_iff.mp hle.1, hallowed, ?_⟩
    intro hbusy
    by_contra hne
    -- Then the first settled outcome is behind place `n`, and another attempt is left.
    have hbehind : ((n + 1 : Nat) : ℕ∞) ≤ firstSettled outcomes := by
      rw [le_firstSettled_iff]
      intro i hi
      rcases Nat.lt_succ_iff_lt_or_eq.mp hi with hi | rfl
      · exact le_firstSettled_iff.mp hle.1 i hi
      · exact hbusy
    have hleft : ((n + 1 : Nat) : ℕ∞) ≤ left := Nat.cast_le.mpr (by omega)
    have hover := (le_min hbehind hleft).trans h.ge
    exact absurd (Nat.cast_le.mp hover) (Nat.not_succ_le_self n)

/-! ## Single attempts -/

/-- What is exchanged in one attempt: nothing if the request cannot be put together. -/
def attempt (request : Except ConnectionFault HttpRequest) (reply : Reply) :
    List (Turn HttpSignature) :=
  match request with
  | .ok sent => [sendTurn sent reply]
  | .error _ => []

/-- What one attempt comes to. -/
def outcome (request : Except ConnectionFault HttpRequest) (judged : Reply → Except RemoteFault β)
    (reply : Reply) : Except RemoteFault β :=
  match request with
  | .ok _ => judged reply
  | .error fault => .error fault.fault

/-- The pause after an attempt with a fault: a remark, and a sleep. -/
def pauseAfter (s : RetrySettings) (number : Nat) (delay : UInt64) (time : Nanos) :
    Except RemoteFault β → List (Turn HttpSignature)
  | .ok _ => []
  | .error fault =>
    [⟨.locally (.log (retryEvent s number delay fault)), ()⟩, ⟨.locally .now, time⟩,
      ⟨.locally (.waitUntil (time + .ofMillis delay)), ()⟩]

theorem ends_attempt_iff {γ : Type} {f : Except RemoteFault β → Http γ} {c : γ} :
    (exchange request read value >>= f).Ends ts c ↔ ∃ reply rest, ts = attempt request reply ++ rest ∧
      (f (outcome request (reading read value) reply)).Ends rest c := by
  cases request with
  | ok sent => exact ends_exchange_iff
  | error fault =>
    constructor
    · intro h
      exact ⟨.error fault, ts, rfl, h⟩
    · rintro ⟨_, _, rfl, h⟩
      exact h

theorem ends_again_iff {operation : Http (Except RemoteFault β)} {fault : RemoteFault} :
    (again s operation left done delay fault).Ends ts result ↔ ∃ time rest,
      ts = pauseAfter s (done + 1) delay time (.error fault : Except RemoteFault β) ++ rest ∧
        (retrying s operation left (done + 1) (nextDelay s delay)).Ends rest result := by
  unfold again
  rw [Http.ends_log_iff]
  simp only [Http.ends_sleep_iff]
  constructor
  · rintro ⟨_, rfl, time, rest, rfl, h⟩
    exact ⟨time, rest, rfl, h⟩
  · rintro ⟨time, rest, rfl, h⟩
    exact ⟨_, rfl, time, rest, rfl, h⟩

/-- With an attempt left, a busy outcome is followed by a pause and the other attempts, and any
other outcome is the result. -/
theorem ends_retrying_succ_iff :
    (retrying s (exchange request read value) (left + 1) done delay).Ends ts result ↔
      ∃ reply rest, ts = attempt request reply ++ rest ∧
        if Busy (outcome request (reading read value) reply) then
          ∃ time later, rest = pauseAfter s (done + 1) delay time
              (outcome request (reading read value) reply) ++ later ∧
            (retrying s (exchange request read value) left (done + 1) (nextDelay s delay)).Ends
              later result
        else rest = [] ∧ result = outcome request (reading read value) reply := by
  rw [retrying_succ, ends_attempt_iff]
  apply exists_congr
  intro reply
  apply exists_congr
  intro rest
  apply and_congr_right
  intro _
  cases outcome request (reading read value) reply with
  | ok b =>
    rw [if_neg (not_busy_ok b)]
    exact ends_done_iff.trans (and_congr_right fun _ => eq_comm)
  | error fault =>
    simp only [busy_error_iff]
    split
    · exact ends_again_iff
    · exact ends_done_iff.trans (and_congr_right fun _ => eq_comm)

/-! ## All attempts -/

/-- The turns of an attempt with `n` more behind it, and a pause between each two. `done` attempts
were made before, and `delay` is how long the first pause is. -/
def course (s : RetrySettings) (request : Except ConnectionFault HttpRequest)
    (judged : Reply → Except RemoteFault β) : (n done : Nat) → (delay : UInt64) →
    (replies : Nat → Reply) → (times : Nat → Nanos) → List (Turn HttpSignature)
  | 0, _, _, replies, _ => attempt request (replies 0)
  | n + 1, done, delay, replies, times =>
    attempt request (replies 0) ++
      (pauseAfter s (done + 1) delay (times 0) (outcome request judged (replies 0)) ++
        course s request judged n (done + 1) (nextDelay s delay) (fun i => replies (i + 1))
          fun i => times (i + 1))

theorem lastAttempt_zero {outcomes : Nat → Except RemoteFault β} :
    LastAttempt 0 outcomes n ↔ n = 0 := by
  constructor
  · intro h
    exact Nat.le_zero.mp h.allowed
  · rintro rfl
    exact ⟨nofun, Nat.le_refl 0, fun _ => rfl⟩

theorem lastAttempt_of_settled {outcomes : Nat → Except RemoteFault β}
    (h : ¬ Busy (outcomes 0)) : LastAttempt left outcomes n ↔ n = 0 := by
  constructor
  · intro hlast
    by_contra hn
    exact h (hlast.before 0 (Nat.pos_of_ne_zero hn))
  · rintro rfl
    exact ⟨nofun, Nat.zero_le left, fun hbusy => absurd hbusy h⟩

/-- After a busy outcome with an attempt left, the last attempt is one of those behind it. -/
theorem lastAttempt_of_busy {outcomes : Nat → Except RemoteFault β} (h : Busy (outcomes 0)) :
    LastAttempt (left + 1) outcomes n ↔
      ∃ m, n = m + 1 ∧ LastAttempt left (fun i => outcomes (i + 1)) m := by
  constructor
  · rintro ⟨hbefore, hallowed, hlast⟩
    cases n with
    | zero => exact absurd (hlast h) (Nat.succ_ne_zero left).symm
    | succ m =>
      refine ⟨m, rfl, ?_, by omega, ?_⟩
      · intro i hi
        exact hbefore (i + 1) (by omega)
      · intro hbusy
        exact Nat.succ.inj (hlast hbusy)
  · rintro ⟨m, rfl, hbefore, hallowed, hlast⟩
    refine ⟨?_, by omega, ?_⟩
    · intro i hi
      cases i with
      | zero => exact h
      | succ i => exact hbefore i (by omega)
    · intro hbusy
      rw [hlast hbusy]

/-- The runs of all attempts together, told by the replies and by the clock: up to the last attempt
there is no other choice. -/
theorem ends_retrying_iff :
    (retrying s (exchange request read value) left done delay).Ends ts result ↔
      ∃ replies times n,
        LastAttempt left (fun i => outcome request (reading read value) (replies i)) n ∧
        ts = course s request (reading read value) n done delay replies times ∧
        result = outcome request (reading read value) (replies n) := by
  induction left generalizing ts done delay with
  | zero =>
    rw [retrying, ← bind_done (exchange _ _ _), ← bind_eq, ends_attempt_iff]
    constructor
    · rintro ⟨reply, rest, rfl, h⟩
      obtain ⟨rfl, rfl⟩ := ends_done_iff.mp h
      exact ⟨fun _ => reply, fun _ => (0 : Nat), 0, lastAttempt_zero.mpr rfl, List.append_nil _, rfl⟩
    · rintro ⟨replies, times, n, hlast, rfl, rfl⟩
      obtain rfl := lastAttempt_zero.mp hlast
      exact ⟨replies 0, [], (List.append_nil _).symm, ends_done_iff.mpr ⟨rfl, rfl⟩⟩
  | succ left ih =>
    rw [ends_retrying_succ_iff]
    constructor
    · rintro ⟨reply, rest, rfl, h⟩
      by_cases hbusy : Busy (outcome request (reading read value) reply)
      · rw [if_pos hbusy] at h
        obtain ⟨time, later, rfl, hagain⟩ := h
        obtain ⟨replies, times, n, hlast, rfl, rfl⟩ := ih.mp hagain
        exact ⟨Stream'.cons reply replies, Stream'.cons time times, n + 1,
          (lastAttempt_of_busy hbusy).mpr ⟨n, rfl, hlast⟩, rfl, rfl⟩
      · rw [if_neg hbusy] at h
        obtain ⟨rfl, rfl⟩ := h
        exact ⟨fun _ => reply, fun _ => (0 : Nat), 0, (lastAttempt_of_settled hbusy).mpr rfl,
          List.append_nil _, rfl⟩
    · rintro ⟨replies, times, n, hlast, rfl, rfl⟩
      by_cases hbusy : Busy (outcome request (reading read value) (replies 0))
      · obtain ⟨n, rfl, hrest⟩ := (lastAttempt_of_busy hbusy).mp hlast
        refine ⟨replies 0, _, rfl, ?_⟩
        rw [if_pos hbusy]
        exact ⟨times 0, _, rfl, ih.mpr ⟨_, _, n, hrest, rfl, rfl⟩⟩
      · obtain rfl := (lastAttempt_of_settled hbusy).mp hlast
        refine ⟨replies 0, [], (List.append_nil _).symm, ?_⟩
        rw [if_neg hbusy]
        exact ⟨rfl, rfl⟩

/-! ## What is sent, and how long the pauses are -/

theorem exchanges_of_attempt (request : Except ConnectionFault HttpRequest) (reply : Reply)
    (later : List (Turn HttpSignature)) : exchanges (attempt request reply ++ later) =
      (request.toOption.map (·, reply)).toList ++ exchanges later := by
  cases request <;> rfl

theorem exchanges_of_pause (number : Nat) (time : Nanos) (o : Except RemoteFault β)
    (later : List (Turn HttpSignature)) :
    exchanges (pauseAfter s number delay time o ++ later) = exchanges later := by
  cases o <;> rfl

theorem exchanges_of_course {sent : HttpRequest} :
    exchanges (course s (.ok sent) judged n done delay replies times) =
      (List.range (n + 1)).map fun i => (sent, replies i) := by
  induction n generalizing done delay replies times with
  | zero => rfl
  | succ n ih =>
    rw [course, exchanges_of_attempt, exchanges_of_pause, ih, List.range_succ_eq_map (n := n + 1),
      List.map_cons, List.map_map]
    rfl

theorem sleeps_of_attempt (request : Except ConnectionFault HttpRequest) (reply : Reply)
    (later : List (Turn HttpSignature)) : sleeps (attempt request reply ++ later) = sleeps later := by
  cases request with
  | ok sent => exact sleeps_send sent reply later
  | error fault => rfl

theorem sleeps_of_pause {o : Except RemoteFault β} (h : Busy o) (number : Nat) (time : Nanos)
    (later : List (Turn HttpSignature)) :
    sleeps (pauseAfter s number delay time o ++ later) = .ofMillis delay :: sleeps later := by
  obtain ⟨fault, rfl, -⟩ := h
  exact sleeps_nap time (.ofMillis delay) later

/-- There is one sleep between each two attempts, and they are the first ones that the settings ask
for. -/
theorem sleeps_of_course (h : ∀ i < n, Busy (outcome request judged (replies i))) :
    sleeps (course s request judged n done delay replies times) = naps s n delay := by
  induction n generalizing done delay replies times with
  | zero =>
    have hnone := sleeps_of_attempt request (replies 0) []
    rwa [List.append_nil] at hnone
  | succ n ih =>
    rw [course, sleeps_of_attempt, sleeps_of_pause (h 0 (Nat.succ_pos n)), naps_succ, ih]
    intro i hi
    exact h (i + 1) (by omega)

/-! ## The requests of a client -/

/-- A run of a client that tells of a request and then makes attempts at it, where the attempts would
be replied to like this, one after the other, and pauses would begin at these times. -/
structure Attempted (c : Client) (event : LogEvent) (request : Except ConnectionFault HttpRequest)
    (judged : Reply → Except RemoteFault β) (replies : Nat → Reply) (times : Nat → Nanos)
    (ts : List (Turn HttpSignature)) (result : Except RemoteFault β) (n : Nat) : Prop where
  /-- The place of the last attempt. -/
  last : (n : ℕ∞) =
    min (firstSettled fun i => outcome request judged (replies i)) c.retry.maxRetries.toNat
  turns : ts = ⟨.locally (.log event), ()⟩ ::
    course c.retry request judged n 0 c.retry.initialDelayMs replies times
  /-- Every attempt sends this request, if it can be put together. -/
  sent : ∀ sent, request = .ok sent →
    exchanges ts = (List.range (n + 1)).map fun i => (sent, replies i)
  slept : sleeps ts = naps c.retry n c.retry.initialDelayMs
  result : result = outcome request judged (replies n)

/-- The request that creates a job. -/
def creationRequest (c : Client) (project : ProjectId) (job : JobDescription) :
    Except ConnectionFault HttpRequest :=
  c.request .post (c.jobsUrl project) none (some (Wire.Job.ofDescription job).toJson)

/-- A program that tells of a request, and makes attempts at it until one is settled or the settings
allow no other. -/
structure MakesAttempts (c : Client) (event : LogEvent)
    (request : Except ConnectionFault HttpRequest) (judged : Reply → Except RemoteFault β)
    (p : Http (Except RemoteFault β)) : Prop where
  /-- However it is answered, it comes to its end. -/
  ends : p.EndsWithin (4 * c.retry.maxRetries.toNat + 2)
  runs : ∀ ts result, p.Ends ts result ↔
    ∃ replies times n, Attempted c event request judged replies times ts result n
  /-- It has a run for all replies in a row, and for all times. -/
  every : ∀ replies times, ∃ ts result n,
    Attempted c event request judged replies times ts result n

theorem exists_lastAttempt (left : Nat) (outcomes : Nat → Except RemoteFault β) :
    ∃ n, LastAttempt left outcomes n := by
  have hfinite : min (firstSettled outcomes) left ≠ ⊤ :=
    ne_top_of_le_ne_top (ENat.natCast_ne_top left) (min_le_right _ _)
  exact ⟨_, lastAttempt_iff.mpr (ENat.natCast_toNat hfinite)⟩

theorem attempted_of_lastAttempt {c : Client} {event : LogEvent}
    (h : LastAttempt c.retry.maxRetries.toNat (fun i => outcome request judged (replies i)) n)
    (times : Nat → Nanos) : Attempted c event request judged replies times
      (⟨.locally (.log event), ()⟩ ::
        course c.retry request judged n 0 c.retry.initialDelayMs replies times)
      (outcome request judged (replies n)) n := by
  refine ⟨lastAttempt_iff.mp h, rfl, ?_, ?_, rfl⟩
  · rintro sent rfl
    exact exchanges_of_course
  · rw [sleeps_log]
    exact sleeps_of_course h.before

theorem makesAttempts {c : Client} {event : LogEvent}
    (hends : (Http.log event >>= fun _ =>
      c.withRetries (exchange request read value)).EndsWithin (4 * c.retry.maxRetries.toNat + 2)) :
    MakesAttempts c event request (reading read value)
      (Http.log event >>= fun _ => c.withRetries (exchange request read value)) := by
  refine ⟨hends, ?_, ?_⟩
  · intro ts result
    rw [Http.ends_log_iff]
    unfold withRetries
    constructor
    · rintro ⟨rest, rfl, h⟩
      obtain ⟨replies, times, n, hlast, rfl, rfl⟩ := ends_retrying_iff.mp h
      exact ⟨replies, times, n, attempted_of_lastAttempt hlast times⟩
    · rintro ⟨replies, times, n, h⟩
      exact ⟨_, h.turns, ends_retrying_iff.mpr
        ⟨replies, times, n, lastAttempt_iff.mpr h.last, rfl, h.result⟩⟩
  · intro replies times
    obtain ⟨n, hlast⟩ := exists_lastAttempt c.retry.maxRetries.toNat
      fun i => outcome request (reading read value) (replies i)
    exact ⟨_, _, n, attempted_of_lastAttempt hlast times⟩

/-- A client makes one attempt at a request, and further ones only while the outcomes are busy and the
settings allow them: so the last attempt is the first one with a settled outcome, or the last one
allowed, and its outcome is the result as it stands. All attempts send the same request, and there is
one sleep between each two of them, and none behind the last one. This holds for all replies, and for
all that a client asks the service for. -/
theorem attempts_end_at_first_settled_outcome (c : Client) :
    (∀ project job, MakesAttempts c (createdEvent (c.jobsUrl project) job)
      (c.creationRequest project job) shown (c.create project job)) ∧
    (∀ project id location, MakesAttempts c (jobEvent (c.jobUrl project id) location)
      (c.jobRequest project id location) shown (c.get project id location)) ∧
    ∀ reference, MakesAttempts c (tableEvent (c.tableUrl reference) reference)
      (c.tableRequest reference) (reading Wire.TableInfo.ofJson? Wire.TableInfo.table)
      (c.table reference) := by
  refine ⟨?_, ?_, ?_⟩
  · intro project job
    exact makesAttempts (serve_endsWithin c (.create project job))
  · intro project id location
    exact makesAttempts (serve_endsWithin c (.get project id location))
  · intro reference
    exact makesAttempts (serve_endsWithin c (.table reference))

end WarehouseJobs.Client
