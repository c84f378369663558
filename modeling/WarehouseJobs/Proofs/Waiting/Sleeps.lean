-- How long a wait sleeps between its looks. The product of a sleep and the multiplier may be any
-- double, and no law of doubles is needed here: what comes out is cut to the maximum, and where
-- nothing comes out the maximum takes its place. So only the first sleep is as long as asked for,
-- and for this one the check of the settings has seen to it.
import Mathlib.Algebra.Order.BigOperators.Group.List
import Mathlib.Algebra.Order.Group.Nat
import WarehouseJobs.Proofs.Export.OwnJob
import WarehouseJobs.Proofs.Programs.Facing
import WarehouseJobs.Proofs.Programs.Heeding
import WarehouseJobs.Proofs.Programs.Requests
import WarehouseJobs.Proofs.Submission.Looks
import WarehouseJobs.Settings.Checks

namespace WarehouseJobs

/-! ## How long each sleep is -/

/-- Any number of milliseconds is a length. -/
theorem Nanos.ofMillis_lt (millis : UInt64) : ofMillis millis < 2 ^ 64 * perSecond := by
  have hmillis : millis.toNat < 2 ^ 64 := millis.toNat_lt
  have hunit : perMilli ≤ perSecond := by decide
  exact Nat.mul_lt_mul_of_lt_of_le hmillis hunit (by decide)

namespace PollingSettings

/-- The sleep with this number, counted from zero. -/
def interval (s : PollingSettings) (n : Nat) : Nanos := s.nextInterval^[n] s.initialInterval

variable {s : PollingSettings}

theorem interval_succ (n : Nat) : s.interval (n + 1) = s.nextInterval (s.interval n) :=
  Function.iterate_succ_apply' ..

theorem nextInterval_le (current : Nanos) : s.nextInterval current ≤ s.maxInterval :=
  Nanos.grown_le ..

theorem interval_succ_le (n : Nat) : s.interval (n + 1) ≤ s.maxInterval := by
  rw [interval_succ]
  exact nextInterval_le _

theorem interval_lt (n : Nat) : s.interval n < 2 ^ 64 * Nanos.perSecond := by
  cases n with
  | zero => exact Nanos.ofMillis_lt s.initialIntervalMs
  | succ n => exact Nat.lt_of_le_of_lt (interval_succ_le n) (Nanos.ofMillis_lt s.maxIntervalMs)

/-- The first sleep of settings that pass is no longer than the others may be. -/
theorem initialInterval_le (h : s.check = .ok ()) : s.initialInterval ≤ s.maxInterval := by
  unfold check at h
  split at h
  · cases h
  · split at h
    · cases h
    · rename_i horder
      rw [UInt64.not_lt, UInt64.le_iff_toNat_le] at horder
      exact Nat.mul_le_mul_right Nanos.perMilli horder

theorem interval_le (h : s.check = .ok ()) (n : Nat) : s.interval n ≤ s.maxInterval := by
  cases n with
  | zero => exact initialInterval_le h
  | succ n => exact interval_succ_le n

end PollingSettings

/-- Until when the request waits at the longest. -/
def WorkRequest.deadline? : WorkRequest → Option Nanos
  | .locally (.waitForSignal deadline) => some deadline
  | .locally (.waitUntil deadline) => some deadline
  | _ => none

/-- A watcher that never waits itself. -/
structure Bystander extends Watcher where
  neverWaits : ∀ count, (onTick count).AsksOnly (WorkRequest.deadline? · = none)

/-- Whoever waits for the job is told of each look, and no more is done. -/
instance : Inhabited Bystander where
  default :=
    { onTick := Work.tick
      aloof := fun _ => ⟨rfl, fun _ => trivial⟩
      neverWaits := fun _ => ⟨rfl, fun _ => trivial⟩ }

namespace Waiting

open Program

/-! ## A diary -/

/-- What is noted about a wait. -/
structure Diary where
  looks : Nat := 0
  /-- The lengths of all sleeps, as they were asked for last; the last sleep at the end. -/
  sleeps : List Nanos := []
  /-- The time as it was told last. -/
  clock : Nanos := 0
  /-- Whether there was a sleep since then. -/
  asleep : Bool := false

namespace Diary

/-- The sleeps in front of one at this time. Who waits again without having asked for the time
goes on with the last sleep. -/
def finished (d : Diary) : List Nanos := if d.asleep then d.sleeps.dropLast else d.sleeps

def waitUntil (d : Diary) (deadline : Nanos) : Diary :=
  { d with sleeps := d.finished ++ [Nat.sub deadline d.clock], asleep := true }

def note (d : Diary) : Turn WorkSignature → Diary
  | ⟨.get .., _⟩ => { d with looks := d.looks + 1 }
  | ⟨.locally .now, time⟩ => { d with clock := time, asleep := false }
  | ⟨.locally (.waitForSignal deadline), _⟩ => d.waitUntil deadline
  | ⟨.locally (.waitUntil deadline), _⟩ => d.waitUntil deadline
  | _ => d

theorem getElem?_sleeps_of_lt {d : Diary} {i : Nat} (h : i < d.finished.length) :
    d.sleeps[i]? = d.finished[i]? := by
  have hprefix : d.finished <+: d.sleeps := by
    unfold finished
    split
    · exact List.dropLast_prefix d.sleeps
    · exact List.prefix_refl d.sleeps
  obtain ⟨last, hlast⟩ := hprefix
  rw [← hlast, List.getElem?_append_left h]

theorem finished_waitUntil (d : Diary) (deadline : Nanos) :
    (d.waitUntil deadline).finished = d.finished := by
  simp [finished, waitUntil]

theorem length_sleeps_waitUntil (d : Diary) (deadline : Nanos) :
    (d.waitUntil deadline).sleeps.length = d.finished.length + 1 := List.length_append

end Diary

def diaryOf (ts : List (Turn WorkSignature)) : Diary := ts.foldl Diary.note {}

/-- Any service, in any surroundings, with somebody who keeps a diary. -/
def observed : Responder WorkSignature where
  State := Diary
  Answers d r a d' := d' = d.note ⟨r, a⟩

theorem serves_observed (d : Diary) (ts : List (Turn WorkSignature)) :
    observed.Serves d ts (ts.foldl Diary.note d) := by
  induction ts generalizing d with
  | nil => exact Responder.Serves.nil (R := observed) d
  | cons t ts ih => exact .cons rfl (ih (d.note t))

/-- Neither a look nor a sleep. -/
def Waking (r : WorkRequest) : Prop :=
  WorkRequest.isLocal r = true ∧ WorkRequest.deadline? r = none

variable {polling : PollingSettings} {d : Diary} {r : WorkRequest} {α β : Type}
  {ts : List (Turn WorkSignature)}

theorem note_waking (h : Waking r) (d : Diary) (a : r.Answer) :
    ∃ clock asleep, d.note ⟨r, a⟩ = { d with clock, asleep } := by
  cases r with
  | locally r =>
    cases r with
    | waitForSignal deadline => cases h.2
    | waitUntil deadline => cases h.2
    | now => exact ⟨a, false, rfl⟩
    | _ => exact ⟨d.clock, d.asleep, rfl⟩
  | _ => cases h.1

theorem note_wait {deadline : Nanos} (h : WorkRequest.deadline? r = some deadline) (d : Diary)
    (a : r.Answer) : d.note ⟨r, a⟩ = d.waitUntil deadline := by
  cases r with
  | locally r =>
    cases r with
    | waitForSignal =>
      cases h
      rfl
    | waitUntil =>
      cases h
      rfl
    | _ => cases h
  | _ => cases h

theorem sleeps_note (h : WorkRequest.deadline? r = none) (d : Diary) (a : r.Answer) :
    (d.note ⟨r, a⟩).sleeps = d.sleeps := by
  cases r with
  | locally r =>
    cases r with
    | waitForSignal deadline => cases h
    | waitUntil deadline => cases h
    | _ => rfl
  | _ => rfl

/-! ## A wait that keeps time -/

/-- The wait has slept once before each look but the first, and all that it ever waits for is the
end of the sleep that is due. -/
structure OnTime (polling : PollingSettings) (d : Diary) (r : WorkRequest) : Prop where
  look : WorkRequest.isLocal r = false → d.sleeps.length = d.looks
  sleep : ∀ deadline, WorkRequest.deadline? r = some deadline →
    deadline = d.clock + polling.interval d.finished.length

/-- A part of a wait that keeps time, and leaves a result and a diary of the kind that `Q` tells. -/
abbrev Paces (polling : PollingSettings) (Q : α → Diary → Prop) (p : Work α) (d : Diary) : Prop :=
  Bears observed (fun _ => 0) (OnTime polling) (fun _ => Q) 0 p d

/-- All sleeps so far were as long as was due. -/
def Due (polling : PollingSettings) (d : Diary) : Prop :=
  ∀ i nap, d.sleeps[i]? = some nap → nap = polling.interval i

theorem onTime_waking (h : Waking r) : OnTime polling d r where
  look hforeign := by
    rw [h.1] at hforeign
    cases hforeign
  sleep _ hwait := by
    rw [h.2] at hwait
    cases hwait

theorem onTime_keeps_due (d : Diary) (r : WorkRequest) (a : r.Answer) (d' : Diary)
    (htime : OnTime polling d r) (hans : observed.Answers d r a d') (h : Due polling d) :
    Due polling d' := by
  obtain rfl : d' = d.note ⟨r, a⟩ := hans
  intro i nap hnap
  cases hwait : WorkRequest.deadline? r with
  | none =>
    rw [sleeps_note hwait] at hnap
    exact h i nap hnap
  | some deadline =>
    have hlength : Nat.sub deadline d.clock = polling.interval d.finished.length := by
      rw [htime.sleep deadline hwait]
      exact Nat.add_sub_cancel_left ..
    rw [note_wait hwait, Diary.waitUntil, hlength, List.getElem?_append] at hnap
    split at hnap
    · rename_i hover
      exact h i nap ((Diary.getElem?_sleeps_of_lt hover).trans hnap)
    · rename_i hlast
      rw [List.getElem?_singleton, Option.ite_none_right_eq_some] at hnap
      obtain ⟨hi, hnap⟩ := hnap
      rw [← Option.some.inj hnap, show i = d.finished.length by omega]

theorem Paces.bind {Q : α → Diary → Prop} {Q' : β → Diary → Prop} {p : Work α} {f : α → Work β}
    (hp : Paces polling Q p d) (hf : ∀ a d', Q a d' → Paces polling Q' (f a) d') :
    Paces polling Q' (p >>= f) d := by
  show Paces polling Q' (Program.bind p f) d
  induction p generalizing d with
  | done a => exact hf a d hp
  | pending => trivial
  | ask r next ih => exact ⟨hp.1, Nat.le_refl 0, fun a d' hans => ih a (hp.2.2 a d' hans)⟩

/-- What neither looks nor sleeps makes no difference to the diary, but for the time. -/
theorem paces_waking {Q : β → Diary → Prop} {p : Work α} {f : α → Work β}
    (hp : p.AsksOnly Waking)
    (hf : ∀ a clock asleep, Paces polling Q (f a) { d with clock, asleep }) :
    Paces polling Q (p >>= f) d := by
  refine Bears.bind_of_asksOnly (I := fun d' => ∃ clock asleep, d' = { d with clock, asleep })
    hp ⟨d.clock, d.asleep, rfl⟩ (fun _ _ => rfl) (fun _ _ _ => onTime_waking) ?_ ?_
  · rintro _ r a d' ⟨clock, asleep, rfl⟩ hwaking hans
    obtain ⟨clock', asleep', hnote⟩ := note_waking hwaking { d with clock, asleep } a
    exact ⟨clock', asleep', hans.trans hnote⟩
  · rintro a _ ⟨clock, asleep, rfl⟩
    exact hf a clock asleep

/-! ## A sleep -/

theorem onTime_wait {deadline : Nanos} (hlocal : WorkRequest.isLocal r = true)
    (hwait : WorkRequest.deadline? r = some deadline)
    (hdue : deadline = d.clock + polling.interval d.finished.length) : OnTime polling d r where
  look hforeign := by
    rw [hlocal] at hforeign
    cases hforeign
  sleep other hother := by
    rw [hwait] at hother
    cases hother
    exact hdue

/-- However often a sleep is disturbed, it is one sleep, and ends when it was to end. -/
theorem sleepOrCancel_paces {deadline : Nanos}
    (hdue : deadline = d.clock + polling.interval d.finished.length) (rounds : Nat) :
    Paces polling (fun _ d' => d'.looks = d.looks ∧ d'.sleeps.length = d.finished.length + 1)
      (sleepOrCancel rounds deadline) d := by
  induction rounds generalizing d with
  | zero => trivial
  | succ rounds ih =>
    rw [sleepOrCancel]
    refine ⟨onTime_wait rfl rfl hdue, Nat.le_refl 0, ?_⟩
    rintro woken _ rfl
    have hslept : (d.waitUntil deadline).sleeps.length = d.finished.length + 1 :=
      d.length_sleeps_waitUntil deadline
    have hstill : deadline = (d.waitUntil deadline).clock +
        polling.interval (d.waitUntil deadline).finished.length := by
      rw [Diary.finished_waitUntil]
      exact hdue
    cases woken with
    | deadline => exact ⟨rfl, hslept⟩
    | gone =>
      refine ⟨onTime_wait rfl rfl hstill, Nat.le_refl 0, ?_⟩
      rintro _ _ rfl
      refine ⟨rfl, ?_⟩
      rw [← d.finished_waitUntil deadline]
      exact Diary.length_sleeps_waitUntil _ deadline
    | change =>
      refine ⟨onTime_waking ⟨rfl, rfl⟩, Nat.le_refl 0, ?_⟩
      rintro cancelled _ rfl
      cases cancelled with
      | true => exact ⟨rfl, hslept⟩
      | false =>
        have hrest := ih hstill
        rw [Diary.finished_waitUntil] at hrest
        exact hrest

/-! ## All rounds -/

theorem logAll_waking (events : List LogEvent) : (logAll events).AsksOnly Waking := by
  induction events with
  | nil => trivial
  | cons event events ih => exact ⟨⟨rfl, rfl⟩, fun _ => ih⟩

theorem onTick_waking (bystander : Bystander) (count : Nat) :
    (bystander.onTick count).AsksOnly Waking := by
  have hlocal : (bystander.onTick count).AsksOnly (WorkRequest.isLocal · = true) :=
    (bystander.aloof count).asksOnly fun _ => rfl
  exact hlocal.and (bystander.neverWaits count)

theorem fetchStatus_paces {project : ProjectId} {reference : JobReference}
    (h : d.sleeps.length = d.looks) :
    Paces polling (fun _ d' => d'.looks = d.looks + 1 ∧ d'.sleeps = d.sleeps)
      (fetchStatus project reference) d := by
  rw [fetchStatus_eq]
  refine ⟨⟨fun _ => h, nofun⟩, Nat.le_refl 0, ?_⟩
  rintro look _ rfl
  exact ⟨rfl, rfl⟩

/-- Before each round, a wait has slept as often as it has looked. -/
theorem awaitFrom_paces {project : ProjectId} {reference : JobReference} (bystander : Bystander)
    (rounds : Nat) (errors : UInt32) (attempt : Nat) (h : d.sleeps.length = d.looks) :
    Paces polling (fun _ _ => True) (awaitFrom polling project reference bystander.onTick rounds
      (polling.interval d.sleeps.length) errors attempt) d := by
  induction rounds generalizing d errors attempt with
  | zero => trivial
  | succ rounds ih =>
    rw [awaitFrom]
    refine paces_waking ⟨⟨rfl, rfl⟩, fun _ => trivial⟩ fun cancelled _ _ => ?_
    cases cancelled with
    | true =>
      exact paces_waking (p := Work.log _) ⟨⟨rfl, rfl⟩, fun _ => trivial⟩ fun _ _ _ => trivial
    | false =>
      refine Paces.bind (fetchStatus_paces h) ?_
      rintro fetched d' ⟨hlooks, hsleeps⟩
      refine paces_waking (onTick_waking bystander _) fun _ _ _ => ?_
      refine paces_waking (logAll_waking _) fun _ _ _ => ?_
      cases judge polling.maxTransientErrors errors fetched with
      | decided result => trivial
      | again errors =>
        refine ⟨onTime_waking ⟨rfl, rfl⟩, Nat.le_refl 0, ?_⟩
        rintro time _ rfl
        -- The time was just told, so the next wait begins a new sleep.
        refine (sleepOrCancel_paces ?_ (rounds + 1)).bind ?_
        · rw [← hsleeps]
          rfl
        rintro cancelled d'' ⟨hlooks', hsleeps'⟩
        cases cancelled with
        | true =>
          exact paces_waking (p := Work.log _) ⟨⟨rfl, rfl⟩, fun _ => trivial⟩
            fun _ _ _ => trivial
        | false =>
          have hslept : d''.sleeps.length = d.sleeps.length + 1 := by
            rw [hsleeps', ← hsleeps]
            rfl
          have hlooked : d''.looks = d.looks + 1 := hlooks'.trans hlooks
          have hrest := ih errors (attempt + 1) (show d''.sleeps.length = d''.looks by omega)
          rw [hslept, PollingSettings.interval_succ] at hrest
          exact hrest

/-! ## Whole waits -/

variable {project : ProjectId} {handle : JobHandle} {bystander : Bystander} {rounds : Nat}
  {q : Work (Except Fault WaitOutcome)}

theorem awaitCompletion_paces : Paces polling (fun _ _ => True)
    (awaitCompletion polling rounds project handle bystander.onTick) {} :=
  awaitFrom_paces (d := {}) bystander rounds 0 0 rfl

theorem due_of_goes
    (h : (awaitCompletion polling rounds project handle bystander.onTick).Goes ts q) :
    Due polling (diaryOf ts) :=
  awaitCompletion_paces.keeps onTime_keeps_due nofun h (serves_observed {} ts)

theorem onTime_of_asksAfter
    (h : (awaitCompletion polling rounds project handle bystander.onTick).AsksAfter ts r) :
    OnTime polling (diaryOf ts) r := by
  obtain ⟨next, hgoes⟩ := h
  obtain ⟨n, -, hnext⟩ := awaitCompletion_paces.goes hgoes (serves_observed {} ts)
  exact hnext.1

/-! ## Waits that sleep as often as it takes -/

/-- What leaves the service alone and does not wait can end, and then it has left the diary alone,
but for the time. -/
theorem exists_ends_waking {p : Work α} (h : p.Concludes fun _ => True) (hp : p.AsksOnly Waking)
    (d : Diary) : ∃ us a clock asleep, p.Ends us a ∧
      us.foldl Diary.note d = { d with clock, asleep } := by
  induction p generalizing d with
  | done a => exact ⟨[], a, d.clock, d.asleep, ends_done_iff.mpr ⟨rfl, rfl⟩, rfl⟩
  | pending => exact h.elim
  | ask r next ih =>
    obtain ⟨answer⟩ : Nonempty r.Answer := by
      cases r with
      | locally r => exact ⟨r.quiet⟩
      | _ => cases h.1
    obtain ⟨clock, asleep, hnote⟩ := note_waking hp.1 d answer
    obtain ⟨us, a, clock', asleep', hends, hnotes⟩ := ih answer (h.2 answer) (hp.2 answer)
      { d with clock, asleep }
    refine ⟨⟨r, answer⟩ :: us, a, clock', asleep', .turn hends, ?_⟩
    rw [List.foldl_cons, hnote, hnotes]

theorem ends_sleepOrCancel (rounds : Nat) (deadline : Nanos) :
    (sleepOrCancel (rounds + 1) deadline).Ends
      [⟨.locally (.waitForSignal deadline), Woken.deadline⟩] false := .turn (.here _)

/-- One round of a wait for a job that goes on running: a look, and a sleep that nothing disturbs. -/
theorem exists_round (polling : PollingSettings) (project : ProjectId) (reference : JobReference)
    (bystander : Bystander) (rounds : Nat) (interval : Nanos) (errors : UInt32) (attempt : Nat)
    (d : Diary) : ∃ us : List (Turn WorkSignature),
      (us.foldl Diary.note d).sleeps.length = d.sleeps.length + 1 ∧
      ∀ ts r, (awaitFrom polling project reference bystander.onTick rounds
          (polling.nextInterval interval) 0 (attempt + 1)).AsksAfter ts r →
        (awaitFrom polling project reference bystander.onTick (rounds + 1) interval errors
          attempt).AsksAfter (us ++ ts) r := by
  let running : JobHandle := { reference, state := .running }
  have hlooked : looked .polling reference (.ok running) = .ok running :=
    looked_of_same reference.sameJob_refl
  obtain ⟨us, _, clock, asleep, htold, hus⟩ := exists_ends_waking (bystander.aloof (attempt + 1))
    (onTick_waking bystander _) { d with looks := d.looks + 1 }
  obtain ⟨vs, _, _, _, hlogged, hvs⟩ := exists_ends_waking
    (logAll_concludes (remark polling reference interval errors (attempt + 1) (.ok running)))
    (logAll_waking _) { d with looks := d.looks + 1, clock, asleep }
  refine ⟨⟨.locally .signal, false⟩ ::
    ⟨.get project reference.id reference.location, .ok running⟩ :: (us ++ (vs ++
      [⟨.locally .now, Nat.zero⟩,
        ⟨.locally (.waitForSignal (Nat.add 0 interval)), Woken.deadline⟩])), ?_, ?_⟩
  · simp only [List.foldl_cons, List.foldl_append, List.foldl_nil, Diary.note, hus, hvs]
    exact Diary.length_sleeps_waitUntil _ _
  · intro ts r hrest
    rw [awaitFrom, fetchStatus_eq, List.cons_append, List.cons_append, List.append_assoc,
      List.append_assoc]
    refine AsksAfter.turn (AsksAfter.turn (htold.asksAfter_bind ?_))
    rw [hlooked]
    refine hlogged.asksAfter_bind (AsksAfter.turn ?_)
    exact (ends_sleepOrCancel rounds _).asksAfter_bind hrest

/-- Such a wait takes one look after the other, and sleeps before each but the first. -/
theorem exists_looks (polling : PollingSettings) (project : ProjectId) (reference : JobReference)
    (bystander : Bystander) (n rounds : Nat) (interval : Nanos) (errors : UInt32) (attempt : Nat)
    (d : Diary) :
    ∃ ts, (awaitFrom polling project reference bystander.onTick (n + rounds + 1) interval errors
        attempt).AsksAfter ts (.get project reference.id reference.location) ∧
      (ts.foldl Diary.note d).sleeps.length = d.sleeps.length + n := by
  induction n generalizing interval errors attempt d with
  | zero =>
    refine ⟨[⟨.locally .signal, false⟩], ?_, rfl⟩
    rw [awaitFrom, fetchStatus_eq]
    exact asksAfter_ask.turn
  | succ n ih =>
    obtain ⟨us, hnoted, hround⟩ := exists_round polling project reference bystander
      (n + rounds + 1) interval errors attempt d
    obtain ⟨ts, hasks, hsleeps⟩ := ih (polling.nextInterval interval) 0 (attempt + 1)
      (us.foldl Diary.note d)
    refine ⟨us ++ ts, ?_, ?_⟩
    · rw [Nat.add_right_comm n 1 rounds]
      exact hround ts _ hasks
    · rw [List.foldl_append, hsleeps, hnoted, Nat.add_assoc, Nat.add_comm 1]

/-! ## The cap -/

/-- Whatever the multiplier is, and whatever a wait is answered: each of its sleeps follows from the
one before, as the settings have it, and all but the first keep to the maximum. Before each look it
has slept once for each look before, and it can come to sleep so as often as there are rounds for.
With settings that pass the check, the first sleep keeps to the maximum as well. -/
theorem sleeps_are_capped (polling : PollingSettings) :
    (∀ project handle (bystander : Bystander) rounds ts q,
      (awaitCompletion polling rounds project handle bystander.onTick).Goes ts q →
      (∀ i nap, (diaryOf ts).sleeps[i]? = some nap →
        nap = polling.nextInterval^[i] polling.initialInterval) ∧
      (∀ nap ∈ (diaryOf ts).sleeps.tail, nap ≤ polling.maxInterval) ∧
      (∀ nap ∈ (diaryOf ts).sleeps, nap < 2 ^ 64 * Nanos.perSecond) ∧
      (polling.check = .ok () → ∀ nap ∈ (diaryOf ts).sleeps, nap ≤ polling.maxInterval) ∧
      ∀ r next, q = .ask r next → WorkRequest.isLocal r = false →
        (diaryOf ts).sleeps.length = (diaryOf ts).looks ∧
        (polling.check = .ok () →
          (diaryOf ts).sleeps.sum ≤ (diaryOf ts).looks * polling.maxInterval)) ∧
    (∀ project handle (bystander : Bystander) rounds, ∀ n < rounds, ∃ ts,
      (awaitCompletion polling rounds project handle bystander.onTick).AsksAfter ts
        (.get project handle.reference.id handle.reference.location) ∧
      (diaryOf ts).sleeps.length = n) ∧
    ∀ s : Settings, s.check = .ok () → s.polling.check = .ok () := by
  refine ⟨fun project handle bystander rounds ts q hgoes => ?_,
    fun project handle bystander rounds n hn => ?_,
    fun s hcheck => (Settings.check_eq_ok_iff.mp hcheck).2.2.2.1⟩
  · have hdue := due_of_goes hgoes
    have hcapped : polling.check = .ok () →
        ∀ nap ∈ (diaryOf ts).sleeps, nap ≤ polling.maxInterval := by
      intro hcheck nap hnap
      obtain ⟨i, hi⟩ := List.mem_iff_getElem?.mp hnap
      rw [hdue i nap hi]
      exact PollingSettings.interval_le hcheck i
    refine ⟨hdue, fun nap hnap => ?_, fun nap hnap => ?_, hcapped, ?_⟩
    · obtain ⟨i, hi⟩ := List.mem_iff_getElem?.mp hnap
      rw [List.getElem?_tail] at hi
      rw [hdue (i + 1) nap hi]
      exact PollingSettings.interval_succ_le i
    · obtain ⟨i, hi⟩ := List.mem_iff_getElem?.mp hnap
      rw [hdue i nap hi]
      exact PollingSettings.interval_lt i
    · rintro r next rfl hforeign
      have hlooks := (onTime_of_asksAfter ⟨next, hgoes⟩).look hforeign
      refine ⟨hlooks, fun hcheck => ?_⟩
      have hsum := List.sum_le_card_nsmul _ _ (hcapped hcheck)
      rwa [hlooks, smul_eq_mul] at hsum
  · obtain ⟨more, rfl⟩ := Nat.exists_eq_add_of_lt hn
    obtain ⟨ts, hasks, hsleeps⟩ := exists_looks polling project handle.reference bystander n more
      polling.initialInterval 0 0 {}
    exact ⟨ts, hasks, hsleeps.trans (Nat.zero_add n)⟩

end Waiting
end WarehouseJobs
