-- A wait that nobody calls off ends at the first look that decides it, and not before. The
-- invariant behind it: the errors that the wait counts are the busy looks in a row that came
-- just before, and nothing else.
import WarehouseJobs.Proofs.Faults
import WarehouseJobs.Proofs.Programs.Requests
import WarehouseJobs.Proofs.Programs.Runs
import WarehouseJobs.Proofs.Submission.Looks

namespace WarehouseJobs.Waiting

open Program

/-! ## Surroundings that let a wait run -/

/-- A service, a clock and a signal that never calls the wait off. In the course of a sleep
the signal may be set any number of times, but always to false, and its sender may leave. -/
structure Calm where
  /-- What the service answers to each look. -/
  looks : Nat → Except RemoteFault JobHandle
  /-- What the clock shows before each sleep. -/
  clock : Nat → Nanos
  /-- How often the signal is set in the course of each sleep. -/
  stirs : Nat → Nat
  /-- Whether the sender has left before the end of each sleep. -/
  gone : Nat → Bool

/-- What a wait has done so far. -/
structure Tally where
  fetches : Nat := 0
  ticks : Nat := 0
  sleeps : Nat := 0
  /-- How often the signal was set since the last sleep that is over. -/
  stirred : Nat := 0

namespace Tally

def fetched (t : Tally) : Tally := { t with fetches := t.fetches + 1 }

def ticked (t : Tally) : Tally := { t with ticks := t.ticks + 1 }

def slept (t : Tally) : Tally := { t with sleeps := t.sleeps + 1, stirred := 0 }

/-- The tally of a wait that is about to take its next look. -/
def before (n : Nat) : Tally := { fetches := n, ticks := n, sleeps := n }

/-- The tally after a look. -/
def after (n : Nat) : Tally := { fetches := n + 1, ticks := n + 1, sleeps := n }

end Tally

namespace Calm

def answer (c : Calm) (t : Tally) : (r : WorkRequest) → r.Answer × Tally
  | .get .. => (c.looks t.fetches, t.fetched)
  | .locally (.tick _) => ((), t.ticked)
  | .locally .now => (c.clock t.sleeps, t)
  | .locally (.waitForSignal _) =>
    if t.stirred < c.stirs t.sleeps then (Woken.change, { t with stirred := t.stirred + 1 })
    else if c.gone t.sleeps then (Woken.gone, t)
    else (Woken.deadline, t.slept)
  | .locally (.waitUntil _) => ((), t.slept)
  | .locally r => (r.quiet, t)
  | .create .. => (.error (.ofStatus 404 "missing"), t)
  | .table _ => (.error (.ofStatus 404 "missing"), t)

theorem fetches_le_answer (c : Calm) (t : Tally) (r : WorkRequest) :
    t.fetches ≤ (c.answer t r).2.fetches := by
  unfold answer
  repeat' split
  all_goals simp [Tally.fetched, Tally.ticked, Tally.slept]

end Calm

/-! ## Looks that decide -/

/-- Look `k` decides a wait for `reference`, with the given result. A wait puts up with `limit`
busy looks in a row. -/
inductive Decides (limit : Nat) (reference : JobReference)
    (looks : Nat → Except RemoteFault JobHandle) (k : Nat) : Except Fault WaitOutcome → Prop
  | ended {handle : JobHandle} : looks k = .ok handle →
      reference.sameJob handle.reference = true → handle.isTerminal = true →
      Decides limit reference looks k (.ok (.completed handle))
  | foreign {handle : JobHandle} : looks k = .ok handle →
      reference.sameJob handle.reference = false →
      Decides limit reference looks k (.error (.identity reference handle.reference))
  | failed {cause : RemoteFault} : looks k = .error cause → cause.classify ≠ .transient →
      Decides limit reference looks k (.error (.remote ⟨cause.classify, .polling, cause⟩))
  | wornOut {cause : RemoteFault} : looks k = .error cause → limit ≤ k →
      (∀ i, k - limit ≤ i → i ≤ k → Busy (looks i)) →
      Decides limit reference looks k (.error (.remote ⟨.fatal, .polling, cause⟩))

def Decisive (limit : Nat) (reference : JobReference)
    (looks : Nat → Except RemoteFault JobHandle) (k : Nat) : Prop :=
  ∃ result, Decides limit reference looks k result

/-! ## Busy looks in a row -/

/-- How many busy looks in a row came just before look `n`. -/
def busyBefore (looks : Nat → Except RemoteFault JobHandle) : Nat → Nat
  | 0 => 0
  | n + 1 => if Busy (looks n) then busyBefore looks n + 1 else 0

theorem le_busyBefore_iff {looks : Nat → Except RemoteFault JobHandle} {m n : Nat} :
    m ≤ busyBefore looks n ↔ m ≤ n ∧ ∀ i, n - m ≤ i → i < n → Busy (looks i) := by
  induction n generalizing m with
  | zero =>
    rw [busyBefore]
    exact ⟨fun hm => ⟨hm, fun i _ hi => absurd hi (Nat.not_lt_zero i)⟩, And.left⟩
  | succ n ih =>
    rw [busyBefore]
    by_cases hb : Busy (looks n)
    · rw [if_pos hb]
      cases m with
      | zero => exact ⟨fun _ => ⟨Nat.zero_le _, fun i hi hlt => by omega⟩, fun _ => Nat.zero_le _⟩
      | succ m =>
        rw [Nat.add_le_add_iff_right, ih]
        constructor
        · rintro ⟨hm, hall⟩
          refine ⟨by omega, fun i hi hlt => ?_⟩
          by_cases hlast : i = n
          · exact hlast ▸ hb
          · exact hall i (by omega) (by omega)
        · rintro ⟨hm, hall⟩
          exact ⟨by omega, fun i hi hlt => hall i (by omega) (by omega)⟩
    · rw [if_neg hb]
      constructor
      · intro hm
        exact ⟨by omega, fun i hi hlt => by omega⟩
      · rintro ⟨_, hall⟩
        exact Nat.le_of_not_lt fun hpos => hb (hall n (by omega) (Nat.lt_succ_self n))

theorem lt_busyBefore_iff {looks : Nat → Except RemoteFault JobHandle} {m k : Nat} :
    m < busyBefore looks (k + 1) ↔ m ≤ k ∧ ∀ i, k - m ≤ i → i ≤ k → Busy (looks i) := by
  rw [← Nat.add_one_le_iff, le_busyBefore_iff]
  simp only [Nat.add_sub_add_right, Nat.add_le_add_iff_right, Nat.lt_succ_iff]

/-! ## One round of the wait -/

variable {c : Calm} {project : ProjectId} {reference : JobReference}

theorem fetchStatus_runs (t : Tally) : runIn c.answer (fetchStatus project reference) t =
    (some (looked .polling reference (c.looks t.fetches)), t.fetched) := by
  rw [fetchStatus_eq]
  rfl

theorem waitForSignal_stirred {t : Tally} (hs : t.stirred < c.stirs t.sleeps)
    (deadline : Nanos) : runIn c.answer (Work.waitForSignal deadline) t =
      (some .change, { t with stirred := t.stirred + 1 }) := runIn_request (if_pos hs)

theorem waitForSignal_gone {t : Tally} (hs : ¬ t.stirred < c.stirs t.sleeps)
    (hg : c.gone t.sleeps = true) (deadline : Nanos) :
    runIn c.answer (Work.waitForSignal deadline) t = (some .gone, t) :=
  runIn_request ((if_neg hs).trans (if_pos hg))

theorem waitForSignal_deadline {t : Tally} (hs : ¬ t.stirred < c.stirs t.sleeps)
    (hg : ¬ c.gone t.sleeps = true) (deadline : Nanos) :
    runIn c.answer (Work.waitForSignal deadline) t = (some .deadline, t.slept) :=
  runIn_request ((if_neg hs).trans (if_neg hg))

/-- A sleep is slept to its end, if it is allowed to look at all the changes that come. -/
theorem sleepOrCancel_runs (rounds : Nat) (deadline : Nanos) (t : Tally)
    (h : t.stirred ≤ c.stirs t.sleeps) : runIn c.answer (sleepOrCancel rounds deadline) t =
      if c.stirs t.sleeps - t.stirred < rounds then (some false, t.slept)
      else (none, { t with stirred := t.stirred + rounds }) := by
  induction rounds generalizing t with
  | zero => rfl
  | succ rounds ih =>
    unfold sleepOrCancel
    by_cases hs : t.stirred < c.stirs t.sleeps
    · rw [runIn_bind_of_some (waitForSignal_stirred hs deadline)]
      refine (ih { t with stirred := t.stirred + 1 } hs).trans ?_
      by_cases hr : c.stirs t.sleeps - t.stirred < rounds + 1
      · rw [if_pos hr, if_pos (by simp only; omega)]
        rfl
      · rw [if_neg hr, if_neg (by simp only; omega)]
        simp only [Nat.add_assoc, Nat.add_comm 1]
    · rw [if_pos (by omega)]
      by_cases hg : c.gone t.sleeps = true
      · rw [runIn_bind_of_some (waitForSignal_gone hs hg deadline)]
        rfl
      · rw [runIn_bind_of_some (waitForSignal_deadline hs hg deadline)]
        rfl

theorem sleepOrCancel_after (rounds n : Nat) (deadline : Nanos) :
    runIn c.answer (sleepOrCancel rounds deadline) (.after n) =
      if c.stirs n < rounds then (some false, .before (n + 1))
      else (none, { Tally.after n with stirred := rounds }) := by
  rw [sleepOrCancel_runs rounds deadline (.after n) (Nat.zero_le (c.stirs n))]
  simp only [Tally.after, Tally.slept, Tally.before, Nat.sub_zero, Nat.zero_add]

variable {polling : PollingSettings} {n : Nat} {errors : UInt32}

/-- A round: its look is judged, and if that does not end the wait, a sleep comes next. -/
theorem awaitFrom_runs (rounds : Nat) (interval : Nanos) :
    runIn c.answer (awaitFrom polling project reference Work.tick (rounds + 1) interval errors n)
        (.before n) =
      match judge polling.maxTransientErrors errors (looked .polling reference (c.looks n)) with
      | .decided result => (some result, .after n)
      | .again errors' =>
        if c.stirs n < rounds + 1 then
          runIn c.answer (awaitFrom polling project reference Work.tick rounds
            (polling.nextInterval interval) errors' (n + 1)) (.before (n + 1))
        else (none, { Tally.after n with stirred := rounds + 1 }) := by
  have hsignal : runIn c.answer Work.signal (.before n) = (some false, .before n) := rfl
  have hfetch : runIn c.answer (fetchStatus project reference) (.before n) =
      (some (looked .polling reference (c.looks n)), (Tally.before n).fetched) := fetchStatus_runs _
  have htick : runIn c.answer (Work.tick (n + 1)) (Tally.before n).fetched =
      (some (), .after n) := rfl
  rw [awaitFrom, runIn_bind_of_some hsignal, if_neg (by simp), runIn_bind_of_some hfetch,
    runIn_bind_of_some htick, runIn_bind_of_some (runIn_logAll (fun _ _ => rfl) _ _)]
  cases judge polling.maxTransientErrors errors (looked .polling reference (c.looks n)) with
  | decided result => rfl
  | again errors' =>
    have hnow : runIn c.answer Work.now (.after n) = (some (c.clock n), .after n) := rfl
    have hsleep := sleepOrCancel_after (c := c) (rounds + 1) n (c.clock n + interval)
    simp only
    rw [runIn_bind_of_some hnow]
    by_cases hs : c.stirs n < rounds + 1
    · rw [if_pos hs] at hsleep ⊢
      rw [runIn_bind_of_some hsleep]
      rfl
    · rw [if_neg hs] at hsleep ⊢
      rw [runIn_bind_of_none hsleep]

/-! ## What a look is judged to be -/

variable {limit : UInt32} {looks : Nat → Except RemoteFault JobHandle}

/-- The errors that a wait has counted before look `n` are the busy looks in a row before it,
and no more than it puts up with. -/
structure Counted (limit : UInt32) (looks : Nat → Except RemoteFault JobHandle) (n : Nat)
    (errors : UInt32) : Prop where
  count : errors.toNat = busyBefore looks n
  within : errors.toNat ≤ limit.toNat

theorem toNat_succ (hlimit : limit.toNat + 1 < UInt32.size) (h : errors.toNat ≤ limit.toNat) :
    (errors + 1).toNat = errors.toNat + 1 := by
  rw [UInt32.toNat_add]
  exact Nat.mod_eq_of_lt (by simp only [UInt32.size] at hlimit; simp; omega)

/-- A wait that has counted right ends at a look that decides. -/
theorem judge_of_decides (hlimit : limit.toNat + 1 < UInt32.size)
    (hcounted : Counted limit looks n errors) {result : Except Fault WaitOutcome}
    (h : Decides limit.toNat reference looks n result) :
    judge limit errors (looked .polling reference (looks n)) = .decided result := by
  cases h with
  | ended hlook same hend =>
    rw [hlook, looked_of_same same]
    exact if_pos hend
  | foreign hlook other =>
    rw [hlook, looked_of_other other]
    rfl
  | failed hlook hc =>
    rw [hlook]
    simp [looked, judge, transientCause?, RemoteFault.during, hc]
  | @wornOut cause hlook hn hall =>
    have hbusy : limit.toNat < busyBefore looks (n + 1) := lt_busyBefore_iff.mpr ⟨hn, hall⟩
    obtain ⟨_, h, hc⟩ := hall n (by omega) (Nat.le_refl _)
    rw [hlook] at h ⊢
    cases h
    have hover : limit < errors + 1 := by
      rw [UInt32.lt_iff_toNat_lt, toNat_succ hlimit hcounted.within, hcounted.count]
      rwa [busyBefore, if_pos ⟨cause, hlook, hc⟩] at hbusy
    simp [looked, judge, transientCause?, RemoteFault.during, hc, hover]

/-- A wait that has counted right goes on after any other look, and counts that one, too. -/
theorem judge_of_undecided (hlimit : limit.toNat + 1 < UInt32.size)
    (hcounted : Counted limit looks n errors) (h : ¬ Decisive limit.toNat reference looks n) :
    ∃ errors', judge limit errors (looked .polling reference (looks n)) = .again errors' ∧
      Counted limit looks (n + 1) errors' := by
  cases hlook : looks n with
  | ok handle =>
    have same : reference.sameJob handle.reference = true :=
      eq_true_of_ne_false fun other => h ⟨_, .foreign hlook other⟩
    have hend : ¬ handle.isTerminal = true := fun hend => h ⟨_, .ended hlook same hend⟩
    refine ⟨0, ?_, ?_, Nat.zero_le _⟩
    · rw [looked_of_same same]
      exact if_neg hend
    · rw [busyBefore, hlook, if_neg (by rintro ⟨_, hb, _⟩; cases hb)]
      rfl
  | error cause =>
    have hc : cause.classify = .transient :=
      Decidable.byContradiction fun hc => h ⟨_, .failed hlook hc⟩
    have hbusy : Busy (looks n) := ⟨cause, hlook, hc⟩
    have hnot : ¬ limit.toNat < busyBefore looks (n + 1) := fun hlt =>
      h ⟨_, .wornOut hlook (lt_busyBefore_iff.mp hlt).1 (lt_busyBefore_iff.mp hlt).2⟩
    rw [busyBefore, if_pos hbusy] at hnot
    have hcount := hcounted.count
    have hsucc := toNat_succ hlimit hcounted.within
    have hstay : ¬ limit < errors + 1 := by
      rw [UInt32.lt_iff_toNat_lt, hsucc]
      omega
    refine ⟨errors + 1, ?_, ?_, by omega⟩
    · simp [looked, judge, transientCause?, RemoteFault.during, hc, hstay]
    · rw [busyBefore, if_pos hbusy, hsucc, hcount]

/-! ## The whole wait -/

variable {handle : JobHandle} {bound k : Nat}

/-- What comes of a wait in calm surroundings, and what it has done by then. -/
def Calm.run (c : Calm) (polling : PollingSettings) (project : ProjectId) (handle : JobHandle)
    (rounds : Nat) : Option (Except Fault WaitOutcome) × Tally :=
  runIn c.answer (awaitCompletion polling rounds project handle Work.tick) {}

theorem counted_zero : Counted limit looks 0 0 := ⟨rfl, Nat.zero_le _⟩

/-- The errors that a wait has counted before look `k`, if no look before that has ended it. -/
def counted? (limit : UInt32) (reference : JobReference)
    (looks : Nat → Except RemoteFault JobHandle) : Nat → Option UInt32
  | 0 => some 0
  | k + 1 =>
    match counted? limit reference looks k with
    | none => none
    | some errors =>
      match judge limit errors (looked .polling reference (looks k)) with
      | .again errors' => some errors'
      | .decided _ => none

theorem counted?_succ_iff {errors' : UInt32} :
    counted? limit reference looks (k + 1) = some errors' ↔ ∃ errors,
      counted? limit reference looks k = some errors ∧
      judge limit errors (looked .polling reference (looks k)) = .again errors' := by
  rw [counted?]
  cases counted? limit reference looks k with
  | none => simp
  | some errors =>
    cases hjudge : judge limit errors (looked .polling reference (looks k)) with
    | decided result => simp [hjudge]
    | again errors'' => simp [hjudge]

/-- As long as no look decides, a wait goes on counting, and it counts right. -/
theorem exists_counted (hlimit : limit.toNat + 1 < UInt32.size)
    (hopen : ∀ j < k, ¬ Decisive limit.toNat reference looks j) :
    ∃ errors, counted? limit reference looks k = some errors ∧ Counted limit looks k errors := by
  induction k with
  | zero => exact ⟨0, rfl, counted_zero⟩
  | succ k ih =>
    obtain ⟨errors, hsome, hcounted⟩ := ih fun j hj => hopen j (by omega)
    obtain ⟨errors', hjudge, hcounted'⟩ :=
      judge_of_undecided hlimit hcounted (hopen k (by omega))
    exact ⟨errors', counted?_succ_iff.mpr ⟨errors, hsome, hjudge⟩, hcounted'⟩

/-- A wait goes on from look to look. -/
theorem run_reaches (project : ProjectId)
    (hcounted : counted? polling.maxTransientErrors handle.reference c.looks k = some errors)
    (hstirs : ∀ j < k, c.stirs j ≤ bound) {rounds : Nat} (hrounds : bound + k ≤ rounds) :
    ∃ interval, c.run polling project handle rounds =
      runIn c.answer (awaitFrom polling project handle.reference Work.tick (rounds - k)
        interval errors k) (.before k) := by
  induction k generalizing errors with
  | zero =>
    obtain rfl := Option.some.inj hcounted
    exact ⟨polling.initialInterval, rfl⟩
  | succ k ih =>
    obtain ⟨before, hbefore, hjudge⟩ := counted?_succ_iff.mp hcounted
    obtain ⟨interval, hrun⟩ := ih hbefore (fun j hj => hstirs j (by omega)) (by omega)
    have hk := hstirs k (by omega)
    obtain ⟨rest, hrest⟩ : ∃ rest, rounds - k = rest + 1 := ⟨rounds - k - 1, by omega⟩
    refine ⟨polling.nextInterval interval, ?_⟩
    rw [hrun, hrest, awaitFrom_runs, hjudge]
    simp only
    rw [if_pos (by omega), show rounds - (k + 1) = rest by omega]

theorem exists_bound (stirs : Nat → Nat) (k : Nat) : ∃ bound, ∀ j < k, stirs j ≤ bound := by
  induction k with
  | zero => exact ⟨0, fun j hj => absurd hj (Nat.not_lt_zero j)⟩
  | succ k ih =>
    obtain ⟨bound, hbound⟩ := ih
    refine ⟨max bound (stirs k), fun j hj => ?_⟩
    by_cases hjk : j = k
    · exact hjk ▸ Nat.le_max_right _ _
    · exact Nat.le_trans (hbound j (by omega)) (Nat.le_max_left _ _)

/-- With the look that ends it, a wait is over. -/
theorem run_of_decided (project : ProjectId) {result : Except Fault WaitOutcome}
    (hcounted : counted? polling.maxTransientErrors handle.reference c.looks k = some errors)
    (hjudge : judge polling.maxTransientErrors errors
      (looked .polling handle.reference (c.looks k)) = .decided result) :
    ∃ enough, ∀ rounds ≥ enough,
      c.run polling project handle rounds = (some result, .after k) := by
  obtain ⟨bound, hstirs⟩ := exists_bound c.stirs k
  refine ⟨bound + k + 1, fun rounds hrounds => ?_⟩
  obtain ⟨interval, hrun⟩ :=
    run_reaches project hcounted hstirs (by omega : bound + k ≤ rounds)
  obtain ⟨rest, hrest⟩ : ∃ rest, rounds - k = rest + 1 := ⟨rounds - k - 1, by omega⟩
  rw [hrun, hrest, awaitFrom_runs, hjudge]

theorem awaitFrom_none
    (hopen : ∀ k, counted? polling.maxTransientErrors reference c.looks k ≠ none) (rounds : Nat)
    (interval : Nanos)
    (hcounted : counted? polling.maxTransientErrors reference c.looks n = some errors) :
    (runIn c.answer (awaitFrom polling project reference Work.tick rounds interval errors n)
      (.before n)).1 = none := by
  induction rounds generalizing n interval errors with
  | zero => rfl
  | succ rounds ih =>
    obtain ⟨errors', hnext⟩ := Option.ne_none_iff_exists'.mp (hopen (n + 1))
    obtain ⟨before, hbefore, hjudge⟩ := counted?_succ_iff.mp hnext
    obtain rfl := Option.some.inj (hcounted.symm.trans hbefore)
    rw [awaitFrom_runs, hjudge]
    simp only
    split
    · exact ih _ hnext
    · rfl

/-- A wait that no look ends takes any number of looks. -/
theorem run_unending (project : ProjectId)
    (hopen : ∀ k, counted? polling.maxTransientErrors handle.reference c.looks k ≠ none) :
    (∀ rounds, (c.run polling project handle rounds).1 = none) ∧
      ∀ n, ∃ enough, ∀ rounds ≥ enough, n ≤ (c.run polling project handle rounds).2.fetches := by
  refine ⟨fun rounds => awaitFrom_none hopen rounds _ rfl, fun n => ?_⟩
  obtain ⟨errors, hcounted⟩ := Option.ne_none_iff_exists'.mp (hopen n)
  obtain ⟨bound, hstirs⟩ := exists_bound c.stirs n
  refine ⟨bound + n, fun rounds hrounds => ?_⟩
  obtain ⟨interval, hrun⟩ := run_reaches project hcounted hstirs hrounds
  have hkeep : ∀ (t : Tally) (r : WorkRequest), n ≤ t.fetches → n ≤ (c.answer t r).2.fetches :=
    fun t r hn => Nat.le_trans hn (c.fetches_le_answer t r)
  rw [hrun]
  exact runIn_keeps (P := fun t : Tally => n ≤ t.fetches) hkeep _ (Nat.le_refl n)

/-- A wait that nobody calls off ends at the first look that decides it, with what that look
says, after one fetch and one tick for each look and one sleep between two looks. If no look
decides, the wait takes any number of looks and never ends. The state in the handle that the
wait starts from does not count. -/
theorem wait_ends_at_first_decisive_look
    (hlimit : polling.maxTransientErrors.toNat + 1 < UInt32.size) (project : ProjectId)
    (handle : JobHandle) (c : Calm) :
    (∀ k result, Decides polling.maxTransientErrors.toNat handle.reference c.looks k result →
      (∀ j < k, ¬ Decisive polling.maxTransientErrors.toNat handle.reference c.looks j) →
      ∃ enough, ∀ rounds ≥ enough, c.run polling project handle rounds =
        (some result, { fetches := k + 1, ticks := k + 1, sleeps := k })) ∧
    ((∀ k, ¬ Decisive polling.maxTransientErrors.toNat handle.reference c.looks k) →
      (∀ rounds, (c.run polling project handle rounds).1 = none) ∧
      ∀ n, ∃ enough, ∀ rounds ≥ enough, n ≤ (c.run polling project handle rounds).2.fetches) := by
  refine ⟨fun k result hk hopen => ?_, fun hopen => run_unending project fun k => ?_⟩
  · obtain ⟨errors, hsome, hcounted⟩ := exists_counted hlimit hopen
    exact run_of_decided project hsome (judge_of_decides hlimit hcounted hk)
  · obtain ⟨errors, hsome, -⟩ := exists_counted (k := k) hlimit fun j _ => hopen j
    rw [hsome]
    exact Option.some_ne_none errors

/-- Surroundings in which the service stays busy, and no sleep is disturbed. -/
def alwaysBusy : Calm where
  looks _ := .error (.ofStatus 503 "busy")
  clock _ := (0 : Nat)
  stirs _ := 0
  gone _ := false

/-- A handle that says the job is done. -/
def doneHandle : JobHandle := { reference := nightly.reference, state := .done }

/-- Who puts up with one busy look gives up at the second, although the handle said that the
job is done. -/
theorem wait_gives_up_at_second_busy_look :
    let polling : PollingSettings := { maxTransientErrors := 1 }
    polling.maxTransientErrors.toNat + 1 < UInt32.size ∧
    ∃ enough, ∀ rounds ≥ enough,
      alwaysBusy.run polling nightly.reference.project doneHandle rounds =
        (some (.error (.remote ⟨.fatal, .polling, .ofStatus 503 "busy"⟩)),
          { fetches := 2, ticks := 2, sleeps := 1 }) := by
  intro polling
  have hlimit : polling.maxTransientErrors.toNat + 1 < UInt32.size := by decide
  have hbusy : ∀ k, Busy (alwaysBusy.looks k) := fun k => ⟨_, rfl, by decide⟩
  have hdecides : Decides polling.maxTransientErrors.toNat doneHandle.reference alwaysBusy.looks 1
      (.error (.remote ⟨.fatal, .polling, .ofStatus 503 "busy"⟩)) :=
    .wornOut rfl (by decide) fun i _ _ => hbusy i
  refine ⟨hlimit,
    (wait_ends_at_first_decisive_look hlimit _ doneHandle alwaysBusy).1 1 _ hdecides ?_⟩
  rintro j hj ⟨_, h⟩
  cases h with
  | ended hlook => cases hlook
  | foreign hlook => cases hlook
  | failed hlook hc =>
    cases hlook
    exact hc (by decide)
  | wornOut _ hle =>
    have hone : polling.maxTransientErrors.toNat = 1 := rfl
    omega

end WarehouseJobs.Waiting
