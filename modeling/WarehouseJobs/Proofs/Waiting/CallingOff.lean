-- Calling off a wait. No look is taken while the signal is set, and once it is set for good the
-- wait ends after a few more requests. The invariant behind it: during a sleep, a signal that is
-- set was set since the wait last looked for changes, so the sleep cannot miss it.
import WarehouseJobs.Proofs.Submission.Looks
import WarehouseJobs.Proofs.Waiting.Sender

namespace WarehouseJobs.Waiting

open Program

/-! ## What ends a wait -/

namespace Surroundings

variable (c : Surroundings) (limit : UInt32) (reference : JobReference)

/-- The transient errors in a row that a wait has counted before look `k`. -/
def tally : Nat → UInt32
  | 0 => 0
  | k + 1 =>
    match judge limit (tally k) (looked .polling reference (c.looks k)) with
    | .again errors => errors
    | .decided _ => 0

/-- Look `k` by itself ends the wait, with this result. -/
def EndsAt (k : Nat) (result : Except Fault WaitOutcome) : Prop :=
  judge limit (c.tally limit reference k) (looked .polling reference (c.looks k)) =
    .decided result

end Surroundings

theorem judge_ne_cancelled {limit errors : UInt32} {fetched : Except Fault JobHandle} :
    judge limit errors fetched ≠ .decided (.ok .cancelled) := by
  unfold judge
  split
  · split <;> nofun
  · split
    · nofun
    · split <;> nofun

/-! ## The price of a signal that is set -/

/-- How many requests a wait makes at most, once its signal is set for good. -/
def patience : Nat := 6

/-- Requests are counted while the signal is set for good. -/
def price (m : Moment) : Nat := if m.Stays true then 1 else 0

/-- No look is taken while the signal is set. -/
def Allowed (m : Moment) (r : WorkRequest) : Prop :=
  ∀ project id location, r = .get project id location → m.signal.value = false

/-- While the signal is set for good, there are `k` requests left; before, nothing is used up. -/
def Affords (k n : Nat) (m : Moment) : Prop := if m.Stays true then k ≤ n else n = patience

/-- A part of a wait that keeps to this. -/
abbrev Surroundings.Keeps (c : Surroundings) {α : Type} (Q : Nat → α → Moment → Prop) (n : Nat)
    (p : Work α) (m : Moment) : Prop := Bears c.withSender price Allowed Q n p m

variable {c : Surroundings} {m m' : Moment} {n k : Nat} {α β : Type}

theorem Affords.mono {j : Nat} (h : Affords k n m) (hjk : j ≤ k) : Affords j n m := by
  unfold Affords at h ⊢
  split
  · rw [if_pos ‹_›] at h
    omega
  · rwa [if_neg ‹_›] at h

theorem affords_of_value (h : m.signal.value = false) (hn : n = patience) : Affords k n m := by
  unfold Affords
  rw [if_neg fun hs => ?_]
  · exact hn
  · rw [hs.1] at h
    cases h

theorem Affords.eq_of_value (h : Affords k n m) (hv : m.signal.value = false) : n = patience := by
  unfold Affords at h
  rwa [if_neg fun hs => ?_] at h
  rw [hs.1] at hv
  cases hv

/-- A request, which uses up one of those that are left if the signal is set for good. -/
theorem keeps_ask {Q : Nat → α → Moment → Prop} {r : WorkRequest} {f : r.Answer → Work α}
    (hm : Affords (k + 1) n m) (hk : k ≤ patience) (hallowed : Allowed m r)
    (h : ∀ n' a m', c.Answers m r a m' → Affords k n' m' → c.Keeps Q n' (f a) m') :
    c.Keeps Q n (Program.ask (S := WorkSignature) r Program.done >>= f) m := by
  have haffords : ∀ a m', c.Answers m r a m' → Affords k (n - price m) m' := by
    intro a m' hans
    unfold Affords price at *
    by_cases hs : m.Stays true
    · rw [if_pos hs] at hm ⊢
      rw [if_pos (hs.answers hans)]
      omega
    · rw [if_neg hs] at hm ⊢
      rw [hm]
      split
      · omega
      · rfl
  refine ⟨hallowed, ?_, fun a m' hans => h _ a m' hans (haffords a m' hans)⟩
  unfold Affords at hm
  unfold price
  split
  · rw [if_pos ‹_›] at hm
    omega
  · omega

/-! ## The parts of a round -/

/-- A wait after `f` looks, in the midst of a round. -/
structure During (k f n : Nat) (m : Moment) : Prop where
  affords : Affords k n m
  fresh : m.Fresh
  fetches : m.fetches = f

/-- A request that has nothing to do with the signal or the service. -/
def Aside (r : LocalRequest) : Prop :=
  ∀ (c : Surroundings) (m m' : Moment) (a : r.Answer), c.Answers m (.locally r) a m' →
    (m.Fresh → m'.Fresh) ∧ m'.fetches = m.fetches

theorem aside_log (event : LogEvent) : Aside (.log event) := by
  rintro c m _ _ ⟨i, -, rfl⟩
  exact ⟨fun h => h.after i, rfl⟩

theorem aside_tick (count : Nat) : Aside (.tick count) := by
  rintro c m _ _ ⟨i, -, rfl⟩
  exact ⟨fun h => h.after i, rfl⟩

theorem aside_now : Aside .now := by
  rintro c m _ _ ⟨i, -, -, rfl⟩
  exact ⟨fun h => h.after i, rfl⟩

theorem allowed_locally (r : LocalRequest) : Allowed m (.locally r) := nofun

variable {f : Nat}

theorem keeps_aside {Q : Nat → α → Moment → Prop} {r : LocalRequest} {g : r.Answer → Work α}
    (hr : Aside r) (hm : During (k + 1) f n m) (hk : k ≤ patience)
    (h : ∀ n' a m', During k f n' m' → c.Keeps Q n' (g a) m') :
    c.Keeps Q n (Program.ask (S := WorkSignature) (.locally r) Program.done >>= g) m := by
  refine keeps_ask hm.affords hk (allowed_locally r) fun n' a m' hans haffords => ?_
  obtain ⟨hfresh, hfetches⟩ := hr c m m' a hans
  exact h n' a m' ⟨haffords, hfresh hm.fresh, hfetches.trans hm.fetches⟩

theorem logAll_keeps (events : List LogEvent) (hm : During (k + events.length) f n m)
    (hk : k + events.length ≤ patience) :
    c.Keeps (fun n _ m => During k f n m) n (logAll events) m := by
  induction events generalizing n m with
  | nil => exact hm
  | cons event events ih =>
    rw [List.length_cons] at hm hk
    exact keeps_aside (k := k + events.length) (aside_log event) hm (by omega)
      fun n' _ m' hm' => ih hm' (by omega)

/-- A sleep that is over: either the wait has read that the signal is set, or there is enough
left to find out at the next look. -/
def Slept (f n : Nat) (cancelled : Bool) (m : Moment) : Prop :=
  if cancelled then m.heard = true ∧ Affords 1 n m else Affords 2 n m ∧ m.fetches = f

theorem value_of_gone (hfresh : m.Fresh) (h : m.signal.noticed? = some .gone) :
    m.signal.value = false ∧ m.signal.isOpen = false := by
  unfold Signal.noticed? at h
  split at h
  · cases h
  · rename_i hunseen
    split at h
    · cases h
    · rename_i hopen
      exact ⟨eq_false_of_ne_true fun hv => hunseen (hfresh hv), eq_false_of_ne_true hopen⟩

theorem sleepOrCancel_keeps (rounds : Nat) (deadline : Nanos) (hm : During 3 f n m) :
    c.Keeps (Slept f) n (sleepOrCancel rounds deadline) m := by
  induction rounds generalizing n m with
  | zero => trivial
  | succ rounds ih =>
    refine keeps_ask hm.affords (by decide) (allowed_locally _) fun n' woken m' hans hm' => ?_
    obtain ⟨i, -, hwakes⟩ := hans
    cases woken with
    | deadline =>
      cases hwakes
      exact ⟨hm', hm.fetches⟩
    | change =>
      obtain ⟨-, t, -, -, rfl⟩ := hwakes
      refine keeps_ask hm' (by decide) (allowed_locally _) fun n'' cancelled m'' hans hm'' => ?_
      obtain ⟨j, -, hcancelled, rfl⟩ := hans
      cases cancelled with
      | true => exact ⟨by simp [Moment.read, ← hcancelled], hm''⟩
      | false =>
        -- The signal is not set, so nothing is used up, and the sleep goes on as before.
        refine ih ⟨affords_of_value hcancelled.symm (hm''.eq_of_value hcancelled.symm),
          Moment.fresh_of_value hcancelled.symm, hm.fetches⟩
    | gone =>
      obtain ⟨hgone, t, -, -, rfl⟩ := hwakes
      obtain ⟨hvalue, hopen⟩ := value_of_gone (hm.fresh.after i) hgone
      refine keeps_ask (k := 2) (affords_of_value hvalue (hm'.eq_of_value hvalue)) (by decide)
        (allowed_locally _) fun n'' _ m'' hans hm'' => ?_
      obtain ⟨j, -, rfl⟩ := hans
      exact ⟨hm'', hm.fetches⟩

/-! ## The wait -/

/-- A wait that has ended was called off after it read that the signal is set, or its last look
ended it. -/
def Surroundings.Finished (c : Surroundings) (limit : UInt32) (reference : JobReference)
    (_n : Nat) (result : Except Fault WaitOutcome) (m : Moment) : Prop :=
  result = .ok .cancelled ∧ m.heard = true ∨
    ∃ k, m.fetches = k + 1 ∧ c.EndsAt limit reference k result

theorem fetchStatus_keeps {project : ProjectId} {reference : JobReference}
    (hvalue : m.signal.value = false) (hn : n = patience) :
    c.Keeps (fun n fetched m' => fetched = looked .polling reference (c.looks m.fetches) ∧
      During patience (m.fetches + 1) n m') n (fetchStatus project reference) m := by
  rw [fetchStatus_eq]
  refine keeps_ask (affords_of_value hvalue hn) (Nat.le_refl _) (fun _ _ _ _ => hvalue)
    fun n' answer m' hans hm' => ?_
  obtain ⟨i, -, rfl, rfl⟩ := hans
  exact ⟨rfl, hm', (Moment.fresh_of_value hvalue).after i, rfl⟩

theorem remark_length_le (polling : PollingSettings) (reference : JobReference)
    (interval : Nanos) (errors : UInt32) (attempt : Nat) (fetched : Except Fault JobHandle) :
    (remark polling reference interval errors attempt fetched).length ≤ 1 := by
  unfold remark
  split
  · simp only
    split <;> rfl
  · split
    · exact Nat.zero_le _
    · split <;> rfl

theorem awaitFrom_keeps {polling : PollingSettings} {project : ProjectId}
    {reference : JobReference} (rounds : Nat) (interval : Nanos) {errors : UInt32}
    (attempt : Nat) (hm : Affords 2 n m)
    (herrors : errors = c.tally polling.maxTransientErrors reference m.fetches) :
    c.Keeps (c.Finished polling.maxTransientErrors reference) n
      (awaitFrom polling project reference Work.tick rounds interval errors attempt) m := by
  induction rounds generalizing n m interval errors attempt with
  | zero => trivial
  | succ rounds ih =>
    rw [awaitFrom]
    refine keeps_ask hm (by decide) (allowed_locally _) fun n' cancelled m' hans hm' => ?_
    obtain ⟨i, hi, hcancelled, rfl⟩ := hans
    cases hi rfl
    cases cancelled with
    | true =>
      refine keeps_ask hm' (by decide) (allowed_locally _) fun n'' _ m'' hans _ => ?_
      obtain ⟨j, -, rfl⟩ := hans
      have hheard : ((m.after 0).read.after j).heard = true := by
        show (_ || (m.after 0).signal.value) = true
        rw [← hcancelled, Bool.or_true]
      exact .inl ⟨rfl, hheard⟩
    | false =>
      have hvalue : (m.after 0).read.signal.value = false := hcancelled.symm
      refine (fetchStatus_keeps hvalue (hm'.eq_of_value hvalue)).bind ?_
      rintro n fetched m' ⟨hfetched, hm'⟩
      refine keeps_aside (aside_tick _) hm' (by decide) fun n _ m' hm' => ?_
      have hremark := remark_length_le polling reference interval errors (attempt + 1) fetched
      refine (logAll_keeps (k := 4) _ ⟨hm'.affords.mono (by omega), hm'.fresh, hm'.fetches⟩
        (by unfold patience; omega)).bind fun n _ m' hm' => ?_
      have hjudged : judge polling.maxTransientErrors
          (c.tally polling.maxTransientErrors reference m.fetches)
          (looked .polling reference (c.looks m.fetches)) =
            judge polling.maxTransientErrors errors fetched := by
        rw [hfetched, herrors]
        rfl
      cases hjudge : judge polling.maxTransientErrors errors fetched with
      | decided result => exact .inr ⟨m.fetches, hm'.fetches, hjudged.trans hjudge⟩
      | again errors' =>
        refine keeps_aside aside_now hm' (by decide) fun n time m' hm' => ?_
        refine (sleepOrCancel_keeps _ _ hm').bind fun n cancelled m' hslept => ?_
        cases cancelled with
        | true =>
          obtain ⟨hheard, hm'⟩ := hslept
          refine keeps_ask hm' (by decide) (allowed_locally _) fun n _ m'' hans _ => ?_
          obtain ⟨j, -, rfl⟩ := hans
          exact .inl ⟨rfl, hheard⟩
        | false =>
          obtain ⟨hm', hfetches⟩ := hslept
          refine ih _ _ hm' ?_
          rw [hfetches]
          show errors' = c.tally polling.maxTransientErrors reference (m.fetches + 1)
          rw [Surroundings.tally, hjudged, hjudge]

/-! ## How long a wait lasts -/

theorem sleepOrCancel_lasts (rounds : Nat) (deadline : Nanos) :
    Lasts rounds (sleepOrCancel rounds deadline) := by
  induction rounds with
  | zero => trivial
  | succ rounds ih =>
    intro woken
    cases woken with
    | deadline => exact lasts_done _ _
    | gone => exact lasts_ask fun _ => lasts_done _ _
    | change =>
      cases rounds with
      | zero => trivial
      | succ rounds =>
        intro cancelled
        cases cancelled with
        | true => exact lasts_done _ _
        | false => exact ih.mono (Nat.le_succ rounds)

theorem logAll_lasts (events : List LogEvent) (n : Nat) : Lasts n (logAll events) := by
  induction events with
  | nil => exact lasts_done n ()
  | cons event events ih => exact lasts_ask fun _ => ih

/-- A wait makes a request in each round at least. -/
theorem awaitFrom_lasts {polling : PollingSettings} {project : ProjectId}
    {reference : JobReference} (rounds : Nat) (interval : Nanos) (errors : UInt32)
    (attempt : Nat) :
    Lasts rounds (awaitFrom polling project reference Work.tick rounds interval errors attempt) := by
  induction rounds generalizing interval errors attempt with
  | zero => trivial
  | succ rounds ih =>
    intro cancelled
    cases cancelled with
    | true => exact lasts_ask fun _ => lasts_done _ _
    | false =>
      have hfetch : Lasts rounds (fetchStatus project reference) := by
        rw [fetchStatus_eq]
        exact lasts_ask fun _ => lasts_done _ _
      refine hfetch.bind fun fetched => lasts_ask fun _ => ?_
      refine (logAll_lasts _ _).bind fun _ => ?_
      cases judge polling.maxTransientErrors errors fetched with
      | decided result => exact lasts_done _ _
      | again errors =>
        refine lasts_ask fun now => ?_
        refine ((sleepOrCancel_lasts _ _).mono (Nat.le_succ rounds)).bind fun cancelled => ?_
        cases cancelled with
        | true => exact lasts_ask fun _ => lasts_done _ _
        | false => exact ih _ _ _

/-! ## A signal that is set for good -/

/-- What is left is enough to end the wait, and no look is among it. -/
theorem settles_of_keeps {limit : UInt32} {reference : JobReference}
    {q : Work (Except Fault WaitOutcome)} (hs : m.Stays true)
    (h : c.Keeps (c.Finished limit reference) n q m) (hlasts : Lasts (n + 1) q) :
    Inevitably c.withSender (Gave fun result m' => m'.fetches = m.fetches ∧
      (result = .ok .cancelled ∨ ∃ k, m.fetches = k + 1 ∧ c.EndsAt limit reference k result))
      n q m := by
  induction n generalizing q m with
  | zero =>
    cases q with
    | done result => exact inevitably_done ⟨rfl, h.imp_left And.left⟩
    | pending => exact hlasts.elim
    | ask r next =>
      have hprice := h.2.1
      rw [price, if_pos hs] at hprice
      omega
  | succ n ih =>
    cases q with
    | done result => exact inevitably_done ⟨rfl, h.imp_left And.left⟩
    | pending => exact hlasts.elim
    | ask r next =>
      obtain ⟨hallowed, -, hnext⟩ := h
      refine inevitably_ask (c.withSender_willing m r) fun a m' hans => ?_
      have hrest := hnext a m' hans
      rw [price, if_pos hs, Nat.add_sub_cancel] at hrest
      have hfetches : m'.fetches = m.fetches := by
        obtain ⟨i, -, hreplies⟩ := hans
        refine Moment.fetches_of_replies (m := m.after i) hreplies fun project id location hr => ?_
        have hvalue := hallowed project id location hr
        rw [hs.1] at hvalue
        cases hvalue
      have hsettles := ih (hs.answers hans) hrest (hlasts a)
      rwa [hfetches] at hsettles

end WarehouseJobs.Waiting
