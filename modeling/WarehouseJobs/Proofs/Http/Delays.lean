-- How long a client sleeps between two tries. The first sleep is as long as the settings say, and
-- each later one follows from the one before it. Only the later ones are cut to the maximum, and
-- the check of the settings does not compare the first one with it.
import Mathlib.Data.List.Iterate
import WarehouseJobs.Proofs.Http.Tries
import WarehouseJobs.Proofs.Programs.Asking
import WarehouseJobs.Proofs.Programs.Minding
import WarehouseJobs.Settings.Checks

namespace WarehouseJobs.Client

open Program

/-! ## Sleeps among turns -/

/-- The lengths of all sleeps. Who sleeps asks for the time, and then waits. -/
def sleeps : List (Turn HttpSignature) → List Nanos
  | [] => []
  | ⟨.locally .now, time⟩ :: ⟨.locally (.waitUntil deadline), _⟩ :: ts =>
    Nat.sub deadline time :: sleeps ts
  | _ :: ts => sleeps ts

/-- The first `count` sleeps that the settings ask for, from a delay on. -/
def naps (s : RetrySettings) (count : Nat) (delay : UInt64) : List Nanos :=
  (List.iterate (nextDelay s) delay count).map .ofMillis

variable {α β : Type} {s : RetrySettings} {read : Json → Option α}
  {value : α → UInt16 → Except RemoteFault β} {ts : List (Turn HttpSignature)}

theorem sleeps_send (request : HttpRequest) (reply : Reply) (ts : List (Turn HttpSignature)) :
    sleeps (sendTurn request reply :: ts) = sleeps ts := rfl

theorem sleeps_log (event : LogEvent) (ts : List (Turn HttpSignature)) :
    sleeps (⟨.locally (.log event), ()⟩ :: ts) = sleeps ts := rfl

theorem sleeps_nap (time length : Nanos) (ts : List (Turn HttpSignature)) :
    sleeps (⟨.locally .now, time⟩ :: ⟨.locally (.waitUntil (time + length)), ()⟩ :: ts) =
      length :: sleeps ts := by
  show Nat.sub (Nat.add time length) time :: sleeps ts = length :: sleeps ts
  exact congrArg (· :: sleeps ts) (Nat.add_sub_cancel_left ..)

theorem naps_succ (s : RetrySettings) (count : Nat) (delay : UInt64) :
    naps s (count + 1) delay = .ofMillis delay :: naps s count (nextDelay s delay) := rfl

/-! ## The sleeps between the tries -/

/-- What is done after a passing fault: a remark, a sleep and the next tries. -/
def again (s : RetrySettings) (operation : Http (Except RemoteFault β)) (left done : Nat)
    (delay : UInt64) (fault : RemoteFault) : Http (Except RemoteFault β) := do
  Http.log (retryEvent s (done + 1) delay fault)
  Http.sleep delay
  retrying s operation left (done + 1) (nextDelay s delay)

theorem retrying_succ (operation : Http (Except RemoteFault β)) (left done : Nat)
    (delay : UInt64) : retrying s operation (left + 1) done delay = (do
      match ← operation with
      | .ok b => pure (.ok b)
      | .error fault =>
        if fault.classify = .transient then again s operation left done delay fault
        else pure (.error fault)) := rfl

theorem again_goes (operation : Http (Except RemoteFault β)) (left done : Nat) (delay : UInt64)
    (fault : RemoteFault) (time : Nanos) : (again s operation left done delay fault).Goes
      [⟨.locally (.log (retryEvent s (done + 1) delay fault)), ()⟩, ⟨.locally .now, time⟩,
        ⟨.locally (.waitUntil (time + .ofMillis delay)), ()⟩]
      (retrying s operation left (done + 1) (nextDelay s delay)) := by
  refine .turn (.turn ?_)
  show Goes (.ask (S := HttpSignature) (.locally (.waitUntil (time + .ofMillis delay))) _) _ _
  exact .turn (.here _)

/-- A try itself does not sleep. -/
theorem sleeps_of_exchange {request : Except ConnectionFault HttpRequest}
    {q : Http (Except RemoteFault β)} (h : (exchange request read value).Goes ts q)
    (later : List (Turn HttpSignature)) : sleeps (ts ++ later) = sleeps later := by
  cases request with
  | error fault =>
    cases h
    rfl
  | ok sent =>
    rw [exchange_eq] at h
    cases h with
    | here => rfl
    | turn h =>
      cases h
      exact sleeps_send sent _ later

theorem sleeps_of_again {operation : Http (Except RemoteFault β)} {left done : Nat}
    {delay : UInt64} {fault : RemoteFault} {q : Http (Except RemoteFault β)}
    (h : (again s operation left done delay fault).Goes ts q) : sleeps ts = [] ∨
      ∃ rest, sleeps ts = .ofMillis delay :: sleeps rest ∧
        (retrying s operation left (done + 1) (nextDelay s delay)).Goes rest q := by
  cases h with
  | here => exact .inl rfl
  | turn h =>
    cases h with
    | here => exact .inl rfl
    | @turn _ _ time _ _ h =>
      cases h with
      | here => exact .inl rfl
      | @turn _ _ _ rest _ h => exact .inr ⟨rest, sleeps_nap time (.ofMillis delay) rest, h⟩

/-- However far the tries have come, the sleeps so far are the first ones that the settings ask
for, and there are no more of them than further tries. -/
theorem sleeps_of_retrying {request : Except ConnectionFault HttpRequest} {left done : Nat}
    {delay : UInt64} {q : Http (Except RemoteFault β)}
    (h : (retrying s (exchange request read value) left done delay).Goes ts q) :
    ∃ count ≤ left, sleeps ts = naps s count delay := by
  induction left generalizing ts done delay with
  | zero =>
    have hnone := sleeps_of_exchange h []
    rw [List.append_nil] at hnone
    exact ⟨0, Nat.le_refl 0, hnone⟩
  | succ left ih =>
    rw [retrying_succ] at h
    rcases goes_of_bind h with ⟨part, hpart⟩ | ⟨us, result, vs, rfl, htry, hrest⟩
    · have hnone := sleeps_of_exchange hpart []
      rw [List.append_nil] at hnone
      exact ⟨0, Nat.zero_le _, hnone⟩
    · rw [sleeps_of_exchange htry]
      cases result with
      | ok b =>
        cases hrest
        exact ⟨0, Nat.zero_le _, rfl⟩
      | error fault =>
        simp only at hrest
        split at hrest
        · rcases sleeps_of_again hrest with hnone | ⟨rest, hfirst, hgoes⟩
          · exact ⟨0, Nat.zero_le _, hnone⟩
          · obtain ⟨count, hcount, hsleeps⟩ := ih hgoes
            refine ⟨count + 1, Nat.succ_le_succ hcount, ?_⟩
            rw [hfirst, hsleeps, naps_succ]
        · cases hrest
          exact ⟨0, Nat.zero_le _, rfl⟩

/-- A try can always fail in passing, and then the first sleep is as long as asked for. -/
theorem retrying_can_sleep (s : RetrySettings) (request : Except ConnectionFault HttpRequest)
    (read : Json → Option α) (value : α → UInt16 → Except RemoteFault β) (left done : Nat)
    (delay : UInt64) : ∃ ts q,
      (retrying s (exchange request read value) (left + 1) done delay).Goes ts q ∧
        sleeps ts = [.ofMillis delay] := by
  have hagain : ∀ fault, ∃ ts q,
      (again s (exchange request read value) left done delay fault).Goes ts q ∧
        sleeps ts = [.ofMillis delay] := fun fault =>
    ⟨_, _, again_goes _ left done delay fault 0, sleeps_nap 0 (.ofMillis delay) []⟩
  cases request with
  | error fault => exact hagain fault.fault
  | ok sent =>
    obtain ⟨ts, q, hgoes, hsleeps⟩ := hagain ConnectionFault.interrupted.fault
    refine ⟨sendTurn sent (.error .interrupted) :: ts, q, .turn hgoes, ?_⟩
    rw [sleeps_send, hsleeps]

/-! ## The sleeps of a client -/

variable {c : Client} {delay : UInt64} {count : Nat}

theorem sleeps_of_logged {event : LogEvent} {request : Except ConnectionFault HttpRequest}
    {q : Http (Except RemoteFault β)} (h : (Http.log event >>= fun _ =>
      c.withRetries (exchange request read value)).Goes ts q) :
    ∃ count ≤ c.retry.maxRetries.toNat,
      sleeps ts = naps c.retry count c.retry.initialDelayMs := by
  cases h with
  | here => exact ⟨0, Nat.zero_le _, rfl⟩
  | @turn _ _ _ rest _ h =>
    obtain ⟨count, hcount, hsleeps⟩ := sleeps_of_retrying h
    exact ⟨count, hcount, (sleeps_log event rest).trans hsleeps⟩

theorem sleeps_of_serve {r : WorkRequest} {q : Http r.Answer} (h : (c.serve r).Goes ts q) :
    ∃ count ≤ c.retry.maxRetries.toNat,
      sleeps ts = naps c.retry count c.retry.initialDelayMs := by
  cases r with
  | create project job => exact sleeps_of_logged h
  | get project id location => exact sleeps_of_logged h
  | table reference => exact sleeps_of_logged h
  | locally r =>
    refine ⟨0, Nat.zero_le _, ?_⟩
    cases h with
    | here => rfl
    | turn h =>
      cases h
      cases r <;> rfl

/-- Whatever the service is asked for, it can be busy once. -/
theorem serve_can_sleep {r : WorkRequest} (hr : WorkRequest.isLocal r = false)
    (hretries : c.retry.maxRetries ≠ 0) :
    ∃ ts q, (c.serve r).Goes ts q ∧ sleeps ts = [.ofMillis c.retry.initialDelayMs] := by
  have hpos : c.retry.maxRetries.toNat ≠ 0 := fun h => hretries (UInt64.toNat_inj.mp h)
  obtain ⟨left, hleft⟩ := Nat.exists_eq_succ_of_ne_zero hpos
  have hlogged : ∀ {α β : Type} (event : LogEvent) (request : Except ConnectionFault HttpRequest)
      (read : Json → Option α) (value : α → UInt16 → Except RemoteFault β), ∃ ts q,
      (Http.log event >>= fun _ => c.withRetries (exchange request read value)).Goes ts q ∧
        sleeps ts = [.ofMillis c.retry.initialDelayMs] := by
    intro α β event request read value
    obtain ⟨ts, q, hgoes, hsleeps⟩ :=
      retrying_can_sleep c.retry request read value left 0 c.retry.initialDelayMs
    refine ⟨⟨.locally (.log event), ()⟩ :: ts, q, .turn ?_, (sleeps_log event ts).trans hsleeps⟩
    show (retrying c.retry (exchange request read value) c.retry.maxRetries.toNat 0 _).Goes ts q
    rwa [hleft]
  cases r with
  | create project job => exact hlogged ..
  | get project id location => exact hlogged ..
  | table reference => exact hlogged ..
  | locally r => cases hr

/-! ## The maximum -/

theorem ofMillis_le_iff {a b : UInt64} : Nanos.ofMillis a ≤ Nanos.ofMillis b ↔ a ≤ b := by
  rw [UInt64.le_iff_toNat_le]
  exact Nat.mul_le_mul_right_iff (by decide)

theorem nextDelay_le (s : RetrySettings) (delay : UInt64) : nextDelay s delay ≤ s.maxDelayMs :=
  Std.min_le_right

theorem naps_le (h : delay ≤ s.maxDelayMs) :
    ∀ nap ∈ naps s count delay, nap ≤ .ofMillis s.maxDelayMs := by
  induction count generalizing delay with
  | zero => exact nofun
  | succ count ih =>
    rw [naps_succ]
    exact List.forall_mem_cons.mpr ⟨ofMillis_le_iff.mpr h, ih (nextDelay_le s delay)⟩

/-- Whatever the first sleep is, none of the others is too long. -/
theorem naps_tail_le (s : RetrySettings) (count : Nat) (delay : UInt64) :
    ∀ nap ∈ (naps s count delay).tail, nap ≤ .ofMillis s.maxDelayMs := by
  cases count with
  | zero => exact nofun
  | succ count => exact naps_le (nextDelay_le s delay)

/-! ## What the check of the settings is about -/

theorem retries_of_check {s : ServiceSettings} (h : s.check = .ok ()) :
    s.retry.maxRetries ≠ 0 := by
  intro hzero
  simp only [ServiceSettings.check, RetrySettings.check, hzero, true_or, if_true] at h
  split at h
  · cases h
  · split at h
    · cases h
    · split at h <;> cases h

theorem check_with_delays {s : ServiceSettings} (h : s.check = .ok ()) (initial longest : UInt64) :
    { s with retry := { s.retry with initialDelayMs := initial, maxDelayMs := longest } }.check =
      .ok () := h

/-- The sleeps between the tries of a client are what the settings ask for: first the initial
delay, and then each delay grown from the one before, never longer than the maximum. The first one
is not cut, and the check of the settings is about neither: so for settings that pass, all sleeps
keep to the maximum exactly if the initial delay does. -/
theorem sleeps_keep_to_maximum_iff_initial_delay_does (s : ServiceSettings) :
    let c := Client.ofSettings s
    (∀ r ts q, (c.serve r).Goes ts q → ∃ count ≤ s.retry.maxRetries.toNat,
      sleeps ts = naps s.retry count s.retry.initialDelayMs) ∧
    (∀ r ts q, (c.serve r).Goes ts q →
      ∀ nap ∈ (sleeps ts).tail, nap ≤ .ofMillis s.retry.maxDelayMs) ∧
    (s.check = .ok () → ∀ r, WorkRequest.isLocal r = false →
      ((∀ ts q, (c.serve r).Goes ts q →
        ∀ nap ∈ sleeps ts, nap ≤ .ofMillis s.retry.maxDelayMs) ↔
          s.retry.initialDelayMs ≤ s.retry.maxDelayMs)) ∧
    (s.check = .ok () → ∀ initial longest, { s with
      retry := { s.retry with initialDelayMs := initial, maxDelayMs := longest } }.check =
        .ok ()) := by
  intro c
  refine ⟨fun r ts q h => sleeps_of_serve h, fun r ts q h => ?_, fun hcheck r hr => ?_,
    fun hcheck initial longest => check_with_delays hcheck initial longest⟩
  · obtain ⟨count, -, hsleeps⟩ := sleeps_of_serve h
    rw [hsleeps]
    exact naps_tail_le s.retry count s.retry.initialDelayMs
  · constructor
    · intro hall
      obtain ⟨ts, q, hgoes, hsleeps⟩ := serve_can_sleep (c := c) hr (retries_of_check hcheck)
      exact ofMillis_le_iff.mp (hall ts q hgoes _ (hsleeps ▸ List.mem_singleton.mpr rfl))
    · intro hinitial ts q h
      obtain ⟨count, -, hsleeps⟩ := sleeps_of_serve h
      rw [hsleeps]
      exact naps_le hinitial

/-- Settings whose first delay is longer than the longest one. -/
def slowToStart : ServiceSettings :=
  { retry := { maxRetries := 1, initialDelayMs := 50, maxDelayMs := 10 } }

/-- Such settings pass, and a client sleeps for longer than it may. -/
theorem first_sleep_exceeds_maximum :
    slowToStart.check = .ok () ∧
    ∃ ts q, ((Client.ofSettings slowToStart).serve (.get ⟨"p"⟩ ⟨"j"⟩ none)).Goes ts q ∧
      sleeps ts = [.ofMillis 50] ∧
      ¬ Nanos.ofMillis 50 ≤ .ofMillis slowToStart.retry.maxDelayMs := by
  have hpass : slowToStart.check = .ok () := passes_of_isOk (by decide +kernel)
  obtain ⟨ts, q, hgoes, hsleeps⟩ := serve_can_sleep (c := Client.ofSettings slowToStart)
    (r := .get ⟨"p"⟩ ⟨"j"⟩ none) rfl (by decide)
  exact ⟨hpass, ts, q, hgoes, hsleeps, by decide⟩

end WarehouseJobs.Client
