-- Waits that nobody calls off. As long as the signal is not set, it does not matter what its
-- sender does: the looks, the ticks, the sleeps and the result are those of a wait whose sender
-- keeps still. A change that leaves the signal as it is may wake the wait, but the wait sleeps
-- on to the same deadline, and there are no more changes than the sender has plans for.
import WarehouseJobs.Proofs.Waiting.CallingOff

namespace WarehouseJobs.Waiting

open Program

variable {c : Surroundings} {m m' : Moment} {p p' : Progress} {v w : Nat}

/-! ## A sender that keeps still -/

/-- What a wait is answered while its sender keeps still. -/
def Surroundings.still (c : Surroundings) (p : Progress) : (r : WorkRequest) → r.Answer × Progress
  | .get _ id location => (c.looks p.fetches, p.fetched c id location)
  | .locally (.tick count) => ((), p.ticked count)
  | .locally (.log _) => ((), p)
  | .locally .now => (p.clock, p)
  | .locally .signal => (false, p)
  | .locally .takeSignal => (false, p)
  | .locally (.waitForSignal deadline) => (Woken.deadline, p.slept c deadline)
  | .locally (.waitUntil deadline) => ((), p.slept c deadline)
  | r => (c.rest r, p)

theorem awaitFrom_still (polling : PollingSettings) (project : ProjectId)
    (reference : JobReference) (rounds : Nat) (interval : Nanos) (errors : UInt32)
    (attempt : Nat) (p : Progress) :
    runIn c.still
        (awaitFrom polling project reference Work.tick (rounds + 1) interval errors attempt) p =
      let told := (p.fetched c reference.id reference.location).ticked (attempt + 1)
      match judge polling.maxTransientErrors errors (looked .polling reference (c.looks p.fetches)) with
      | .decided result => (some result, told)
      | .again errors =>
        runIn c.still (awaitFrom polling project reference Work.tick rounds
          (polling.nextInterval interval) errors (attempt + 1))
          (told.slept c (told.clock + interval)) := by
  have hsignal : runIn c.still Work.signal p = (some false, p) := rfl
  have hfetch : runIn c.still (fetchStatus project reference) p =
      (some (looked .polling reference (c.looks p.fetches)),
        p.fetched c reference.id reference.location) := by
    rw [fetchStatus_eq]
    rfl
  rw [awaitFrom, runIn_bind_of_some hsignal, if_neg (by simp), runIn_bind_of_some hfetch]
  have htick : ∀ p : Progress,
      runIn c.still (Work.tick (attempt + 1)) p = (some (), p.ticked (attempt + 1)) := fun _ => rfl
  rw [runIn_bind_of_some (htick _), runIn_bind_of_some (runIn_logAll (fun _ _ => rfl) _ _)]
  simp only
  cases judge polling.maxTransientErrors errors (looked .polling reference (c.looks p.fetches)) with
  | decided result => rfl
  | again errors => rfl

/-! ## A sender that does no harm -/

/-- A wait that has come so far, whose signal is not set and stays so. No more than `w` changes
are left to be found. -/
structure Harmless (w : Nat) (p : Progress) (m : Moment) : Prop where
  progress : m.toProgress = p
  stays : m.Stays false
  changes : m.changes ≤ w

theorem Harmless.after (h : Harmless w p m) (n : Nat) : Harmless w p (m.after n) :=
  ⟨h.progress, h.stays.after n, Nat.le_trans (m.changes_after_le n) h.changes⟩

theorem Harmless.mono (h : Harmless v p m) (hvw : v ≤ w) : Harmless w p m :=
  ⟨h.progress, h.stays, Nat.le_trans h.changes hvw⟩

theorem Harmless.seen (h : Harmless w p m) :
    Harmless w p { m.read with signal := m.signal.seen } := by
  refine ⟨h.progress, h.stays, Nat.le_trans ?_ h.changes⟩
  unfold Moment.changes
  exact Nat.add_le_add_left (by simp [Signal.seen]) _

/-- A request that a change of the signal may answer. -/
def listens : WorkRequest → Bool
  | .locally (.waitForSignal _) => true
  | _ => false

theorem Harmless.replies {r : WorkRequest} {a : r.Answer} (h : Harmless w p m)
    (hr : listens r = false) (hans : c.Replies m r a m') :
    a = (c.still p r).1 ∧ Harmless w (c.still p r).2 m' := by
  have hvalue : m.signal.value = false := h.stays.1
  have hseen := h.seen
  obtain ⟨rfl, hstays, hchanges⟩ := h
  cases r with
  | create | get | table =>
    obtain ⟨rfl, rfl⟩ := hans
    exact ⟨rfl, rfl, hstays, hchanges⟩
  | locally r =>
    cases r with
    | log | tick | waitUntil =>
      cases hans
      exact ⟨rfl, rfl, hstays, hchanges⟩
    | now | draw | say | complain =>
      obtain ⟨rfl, rfl⟩ := hans
      exact ⟨rfl, rfl, hstays, hchanges⟩
    | signal =>
      obtain ⟨rfl, rfl⟩ := hans
      exact ⟨hvalue, rfl, hstays, hchanges⟩
    | takeSignal =>
      obtain ⟨rfl, rfl⟩ := hans
      exact ⟨hvalue, hseen⟩
    | waitForSignal deadline => cases hr

/-- But for sleeps, the wait is answered as if the sender kept still. -/
theorem Harmless.request (h : Harmless w p m) (r : WorkRequest) (hr : listens r = false) :
    Inevitably c.withSender
      (Gave fun a m' => a = (c.still p r).1 ∧ Harmless w (c.still p r).2 m') 1
      (Program.ask (S := WorkSignature) r Program.done) m := by
  refine inevitably_ask (c.withSender_willing m r) fun a m' hans => ?_
  obtain ⟨i, -, hreplies⟩ := hans
  exact inevitably_done ((h.after i).replies hr hreplies)

/-! ## Sleeps -/

/-- A change that is found is one less to be found. -/
theorem changes_of_noticed (h : m.signal.noticed? = some .change) (t : Nanos) :
    { m with clock := t, signal := m.signal.seen }.changes + 1 = m.changes := by
  have hunseen : m.signal.unseen = true := by
    unfold Signal.noticed? at h
    split at h
    · assumption
    · split at h <;> cases h
  unfold Moment.changes
  rw [if_pos hunseen, if_neg (by simp [Signal.seen])]

/-- A sleep is slept to its end, whatever a sender does who does no harm. -/
theorem sleepOrCancel_inevitably (rounds : Nat) (deadline : Nanos) (hm : Harmless v p m)
    (hv : v < rounds) :
    Inevitably c.withSender
      (Gave fun cancelled m' => cancelled = false ∧ Harmless v (p.slept c deadline) m')
      (2 * v + 2) (sleepOrCancel rounds deadline) m := by
  induction rounds generalizing v p m with
  | zero => omega
  | succ rounds ih =>
    refine inevitably_ask (n := 2 * v + 1) (c.withSender_willing m _) fun woken m' hans => ?_
    obtain ⟨i, -, hwakes⟩ := hans
    obtain ⟨rfl, hstays, hchanges⟩ := hm.after i
    cases woken with
    | deadline =>
      cases hwakes
      exact inevitably_done ⟨rfl, rfl, hstays, hchanges⟩
    | gone =>
      obtain ⟨-, t, hfrom, hto, rfl⟩ := hwakes
      have hslept := (m.after i).slept_of_between c hfrom hto
      have hgone : Harmless v { (m.after i).toProgress with clock := t }
          { m.after i with clock := t } := ⟨rfl, hstays, hchanges⟩
      refine (hgone.request (.locally (.waitUntil deadline)) rfl).bind (n := 0)
        (fun _ m' hm' => ?_) |>.mono (fun _ _ h => h) (by omega)
      have hover : Harmless v ({ (m.after i).toProgress with clock := t }.slept c deadline) m' :=
        hm'.2
      rw [hslept] at hover
      exact inevitably_done ⟨rfl, hover⟩
    | change =>
      obtain ⟨hnoticed, t, hfrom, hto, rfl⟩ := hwakes
      have hslept := (m.after i).slept_of_between c hfrom hto
      rw [← changes_of_noticed hnoticed t] at hchanges
      obtain ⟨v, rfl⟩ : ∃ k, v = k + 1 := ⟨v - 1, by omega⟩
      have hfound : Harmless v { (m.after i).toProgress with clock := t }
          { m.after i with clock := t, signal := (m.after i).signal.seen } :=
        ⟨rfl, hstays, Nat.le_of_succ_le_succ hchanges⟩
      refine (hfound.request (.locally .takeSignal) rfl).bind (n := 2 * v + 2)
        (fun cancelled m' hm' => ?_) |>.mono (fun _ _ h => h) (by omega)
      obtain ⟨rfl, hm'⟩ := hm'
      refine (ih hm' (by omega)).mono ?_ (Nat.le_refl _)
      rintro _ m'' ⟨_, rfl, rfl, hm''⟩
      have hover : Harmless v ({ (m.after i).toProgress with clock := t }.slept c deadline) m'' :=
        hm''
      rw [hslept] at hover
      exact ⟨false, rfl, rfl, hover.mono (Nat.le_succ v)⟩

/-! ## Waits -/

/-- The program has got where a program is that is left with this outcome. -/
def Reached {α : Type} (outcome : Option α × Progress) (q : Work α) (m : Moment) : Prop :=
  m.toProgress = outcome.2 ∧ ∀ a, outcome.1 = some a → q = .done a

theorem fetchStatus_inevitably {project : ProjectId} {reference : JobReference}
    (hm : Harmless w p m) : Inevitably c.withSender
      (Gave fun fetched m' => fetched = looked .polling reference (c.looks p.fetches) ∧
        Harmless w (p.fetched c reference.id reference.location) m')
      1 (fetchStatus project reference) m := by
  rw [fetchStatus_eq]
  refine (hm.request (.get project reference.id reference.location) rfl).bind (n := 0) ?_
  rintro _ m' ⟨rfl, hm'⟩
  exact inevitably_done ⟨rfl, hm'⟩

theorem logAll_inevitably (events : List LogEvent) (hm : Harmless w p m) :
    Inevitably c.withSender (Gave fun _ m' => Harmless w p m') events.length (logAll events) m := by
  induction events generalizing m with
  | nil => exact inevitably_done hm
  | cons event events ih =>
    rw [List.length_cons, Nat.add_comm]
    exact (hm.request (.locally (.log event)) rfl).bind fun _ m' hm' => ih hm'.2

/-- A wait with rounds to spare comes as far as a wait of `k` rounds whose sender keeps still. -/
theorem awaitFrom_inevitably {polling : PollingSettings} {project : ProjectId}
    {reference : JobReference} (k : Nat) {rounds : Nat} (interval : Nanos) (errors : UInt32)
    (attempt : Nat) (hm : Harmless w p m) (hrounds : w + k < rounds) :
    Inevitably c.withSender
      (Reached (runIn c.still
        (awaitFrom polling project reference Work.tick k interval errors attempt) p))
      (k * (2 * w + 7))
      (awaitFrom polling project reference Work.tick rounds interval errors attempt) m := by
  induction k generalizing rounds p m interval errors attempt with
  | zero =>
    refine inevitably_now ⟨hm.progress, ?_⟩
    rintro _ ⟨⟩
  | succ k ih =>
    obtain ⟨rounds, rfl⟩ : ∃ r, rounds = r + 1 := ⟨rounds - 1, by omega⟩
    rw [awaitFrom_still, awaitFrom]
    have hbudget : 1 + (1 + (1 + (1 + (1 + (2 * w + 2 + k * (2 * w + 7)))))) =
        (k + 1) * (2 * w + 7) := by
      rw [Nat.succ_mul k]
      omega
    rw [← hbudget]
    refine (hm.request (.locally .signal) rfl).bind fun cancelled m hm => ?_
    obtain ⟨rfl, hm⟩ := hm
    change Harmless w p m at hm
    refine (fetchStatus_inevitably hm).bind ?_
    rintro fetched m ⟨rfl, hm⟩
    refine (hm.request (.locally (.tick (attempt + 1))) rfl).bind fun _ m hm => ?_
    obtain ⟨-, hm⟩ := hm
    change Harmless w ((p.fetched c reference.id reference.location).ticked (attempt + 1)) m at hm
    have hremark := remark_length_le polling reference interval errors (attempt + 1)
      (looked .polling reference (c.looks p.fetches))
    refine ((logAll_inevitably _ hm).mono (fun _ _ h => h) hremark).bind fun _ m hm => ?_
    simp only
    cases judge polling.maxTransientErrors errors (looked .polling reference (c.looks p.fetches)) with
    | decided result => exact inevitably_now ⟨hm.progress, fun a ha => by cases ha; rfl⟩
    | again errors =>
      refine (hm.request (.locally .now) rfl).bind fun time m hm => ?_
      obtain ⟨rfl, hm⟩ := hm
      refine (sleepOrCancel_inevitably (rounds + 1) _ hm (by omega)).bind fun cancelled m hm => ?_
      obtain ⟨rfl, hm⟩ := hm
      exact ih _ _ _ hm (by omega)

/-! ## Signals and waits -/

/-- A wait is about to begin, and the sender of its signal has this plan. -/
def Moment.start (clock : Nanos) (signal : Signal) (plan : List SenderAction) : Moment :=
  { clock, signal, plan }

theorem affords_start (clock : Nanos) (signal : Signal) (plan : List SenderAction) :
    Affords 2 patience (.start clock signal plan) := by
  unfold Affords
  split
  · decide
  · rfl

theorem changes_start_le (clock : Nanos) (signal : Signal) (plan : List SenderAction) :
    (Moment.start clock signal plan).changes ≤ plan.length + 1 := by
  refine Nat.add_le_add_left ?_ plan.length
  split
  · exact Nat.le_refl 1
  · exact Nat.zero_le 1

/-- A wait heeds its signal, and nothing else that the sender of the signal does, whenever it is
done. No look begins while the signal is set. Only a wait that has read that the signal is set
is called off. Once the signal is set for good, the wait ends within six requests without
another look: it is called off, unless its last look by itself ended it. And as long as the
signal is not set, settings that leave it so and a sender who leaves change nothing: the looks,
the ticks, the sleeps with their deadlines and the result are those of a wait whose sender keeps
still. -/
theorem wait_heeds_its_signal_only (c : Surroundings) (polling : PollingSettings)
    (project : ProjectId) (handle : JobHandle) (clock : Nanos) (signal : Signal)
    (plan : List SenderAction) :
    (∀ rounds ts m project' id location,
      (awaitCompletion polling rounds project handle Work.tick).AsksAfter ts
        (.get project' id location) →
      c.withSender.Serves (Moment.start clock signal plan) ts m → m.signal.value = false) ∧
    (∀ rounds ts m,
      (awaitCompletion polling rounds project handle Work.tick).Ends ts (.ok .cancelled) →
      c.withSender.Serves (Moment.start clock signal plan) ts m → m.heard = true) ∧
    (∀ rounds ts m q,
      (awaitCompletion polling rounds project handle Work.tick).Goes ts q →
      c.withSender.Serves (Moment.start clock signal plan) ts m →
      m.signal.value = true → SenderAction.set false ∉ m.plan → ts.length + 7 ≤ rounds →
      Inevitably c.withSender (Gave fun result m' => m'.fetches = m.fetches ∧
        (result = .ok .cancelled ∨ ∃ k, m.fetches = k + 1 ∧
          c.EndsAt polling.maxTransientErrors handle.reference k result)) 6 q m) ∧
    (signal.value = false → SenderAction.set true ∉ plan →
      ∀ k rounds, plan.length + 1 + k < rounds →
        Inevitably c.withSender
          (Reached (runIn c.still (awaitCompletion polling k project handle Work.tick) { clock }))
          (k * (2 * (plan.length + 1) + 7))
          (awaitCompletion polling rounds project handle Work.tick)
          (Moment.start clock signal plan)) := by
  have hkeeps : ∀ rounds, c.Keeps (c.Finished polling.maxTransientErrors handle.reference) patience
      (awaitCompletion polling rounds project handle Work.tick)
      (.start clock signal plan) := fun rounds =>
    awaitFrom_keeps rounds _ _ (affords_start clock signal plan) rfl
  refine ⟨?_, ?_, ?_, ?_⟩
  · rintro rounds ts m project' id location ⟨next, hgoes⟩ hserves
    obtain ⟨n, -, hallowed, -⟩ := (hkeeps rounds).goes hgoes hserves
    exact hallowed project' id location rfl
  · intro rounds ts m hends hserves
    obtain ⟨n, -, ⟨-, hheard⟩ | ⟨k, -, hended⟩⟩ := (hkeeps rounds).goes hends hserves
    · exact hheard
    · exact absurd hended judge_ne_cancelled
  · intro rounds ts m q hgoes hserves hvalue hplan hrounds
    obtain ⟨n, hn, hq⟩ := (hkeeps rounds).goes hgoes hserves
    have hlasts : Lasts (n + 1) q := by
      refine hgoes.lasts ((awaitFrom_lasts rounds _ _ _).mono ?_)
      unfold patience at hn
      omega
    exact (settles_of_keeps ⟨hvalue, hplan⟩ hq hlasts).mono (fun _ _ h => h) hn
  · intro hvalue hplan k rounds hrounds
    exact awaitFrom_inevitably k _ _ _
      ⟨rfl, ⟨hvalue, hplan⟩, changes_start_le clock signal plan⟩ hrounds

end WarehouseJobs.Waiting
