-- A wait and the sender of its signal, at work at the same time. The sender goes through a plan;
-- how much of it is done in the course of each request is left open, and so is what ends a
-- sleep when more than one thing could. So every interleaving of the two is a way to answer.
import WarehouseJobs.Proofs.Programs.Facing
import WarehouseJobs.Signal
import WarehouseJobs.Waiting

namespace WarehouseJobs.Waiting

open Program

/-! ## What a wait has done -/

/-- What a wait meets with, apart from the sender of its signal. -/
structure Surroundings where
  /-- What the service answers to each look. -/
  looks : Nat → Except RemoteFault JobHandle
  /-- How long each look takes. -/
  takes : Nat → Nanos
  /-- When a timer goes off that is set to a deadline. -/
  rings : Nanos → Nanos
  /-- The answers to requests that no wait makes. -/
  rest : (r : WorkRequest) → r.Answer

/-- What shows of a wait. -/
inductive Event where
  | fetched (id : JobId) (location : Option String) (start : Nanos)
  | ticked (count : Nat)
  /-- A sleep was slept to its end. -/
  | slept (deadline woken : Nanos)

/-- How far a wait has come. -/
structure Progress where
  clock : Nanos
  fetches : Nat := 0
  history : List Event := []

namespace Progress

variable (p : Progress) (c : Surroundings)

def fetched (id : JobId) (location : Option String) : Progress where
  clock := p.clock + c.takes p.fetches
  fetches := p.fetches + 1
  history := p.history ++ [.fetched id location p.clock]

def ticked (count : Nat) : Progress := { p with history := p.history ++ [.ticked count] }

/-- When a sleep is over that is not broken off. -/
def bell (deadline : Nanos) : Nanos := max p.clock (c.rings deadline)

def slept (deadline : Nanos) : Progress where
  clock := p.bell c deadline
  fetches := p.fetches
  history := p.history ++ [.slept deadline (p.bell c deadline)]

/-- It does not matter for the end of a sleep how much of it is over. -/
theorem slept_of_between {t deadline : Nanos} (h : p.clock ≤ t) (h' : t ≤ p.bell c deadline) :
    { p with clock := t }.slept c deadline = p.slept c deadline := by
  have hbell : { p with clock := t }.bell c deadline = p.bell c deadline := by
    refine Nat.le_antisymm (Nat.max_le.mpr ⟨h', Nat.le_max_right _ _⟩) ?_
    exact Nat.max_le.mpr ⟨Nat.le_trans h (Nat.le_max_left _ _), Nat.le_max_right _ _⟩
  rw [slept, hbell, slept]

end Progress

/-! ## The sender -/

/-- A wait and the sender of its signal. -/
structure Moment extends Progress where
  signal : Signal
  /-- What the sender is still going to do. -/
  plan : List SenderAction
  /-- The wait has read that the signal is set. -/
  heard : Bool := false

namespace Moment

/-- The sender has done the next things of its plan. -/
def after (m : Moment) (n : Nat) : Moment :=
  { m with signal := (m.plan.take n).foldl Signal.after m.signal, plan := m.plan.drop n }

/-- The wait has read the signal. -/
def read (m : Moment) : Moment := { m with heard := m.heard || m.signal.value }

/-- The signal has this value, and keeps it. -/
def Stays (b : Bool) (m : Moment) : Prop := m.signal.value = b ∧ SenderAction.set (!b) ∉ m.plan

instance (b : Bool) (m : Moment) : Decidable (m.Stays b) := inferInstanceAs (Decidable (_ ∧ _))

/-- A signal that is set was set since the wait last looked for changes. -/
def Fresh (m : Moment) : Prop := m.signal.value = true → m.signal.unseen = true

/-- How many changes a wait can still find. -/
def changes (m : Moment) : Nat := m.plan.length + if m.signal.unseen then 1 else 0

end Moment

/-! ## Answers -/

namespace Surroundings

variable (c : Surroundings)

/-- How a sleep can end. If there is a change when the time is over, either may end it. -/
def Wakes (m : Moment) (deadline : Nanos) : Woken → Moment → Prop
  | .deadline, m' => m' = { m with toProgress := m.slept c deadline }
  | .change, m' => m.signal.noticed? = some .change ∧
      ∃ t, m.clock ≤ t ∧ t ≤ m.bell c deadline ∧
        m' = { m with clock := t, signal := m.signal.seen }
  | .gone, m' => m.signal.noticed? = some .gone ∧
      ∃ t, m.clock ≤ t ∧ t ≤ m.bell c deadline ∧ m' = { m with clock := t }

def Replies (m : Moment) : (r : WorkRequest) → r.Answer → Moment → Prop
  | .get _ id location, a, m' =>
    a = c.looks m.fetches ∧ m' = { m with toProgress := m.fetched c id location }
  | .locally (.tick count), _, m' => m' = { m with toProgress := m.ticked count }
  | .locally (.log _), _, m' => m' = m
  | .locally .now, a, m' => a = m.clock ∧ m' = m
  | .locally .signal, a, m' => a = m.signal.value ∧ m' = m.read
  | .locally .takeSignal, a, m' =>
    a = m.signal.value ∧ m' = { m.read with signal := m.signal.seen }
  | .locally (.waitForSignal deadline), a, m' => c.Wakes m deadline a m'
  | .locally (.waitUntil deadline), _, m' => m' = { m with toProgress := m.slept c deadline }
  | r, a, m' => a = c.rest r ∧ m' = m

/-- The sender does some of its plan in the course of a request. Only while a wait reads the
signal there is nothing that it waits for, and the sender does not get a turn before the next
request has begun. -/
def Answers (m : Moment) (r : WorkRequest) (a : r.Answer) (m' : Moment) : Prop :=
  ∃ n, (r = .locally .signal → n = 0) ∧ c.Replies (m.after n) r a m'

/-- A wait's surroundings and the sender of its signal, as the one who answers the wait. -/
def withSender : Responder WorkSignature := ⟨Moment, c.Answers⟩

end Surroundings

/-! ## What answers change -/

theorem after_set_of_open {s : Signal} (h : s.isOpen = true) (value : Bool) :
    s.after (.set value) = { s with value, unseen := true } := if_pos h

theorem after_set_of_left {s : Signal} (h : s.isOpen = false) (value : Bool) :
    s.after (.set value) = s := if_neg (by simp [h])

namespace Moment

variable {c : Surroundings} {m m' : Moment} {b : Bool}

theorem value_foldl_after {actions : List SenderAction} {s : Signal} (hs : s.value = b)
    (h : SenderAction.set (!b) ∉ actions) : (actions.foldl Signal.after s).value = b := by
  induction actions generalizing s with
  | nil => exact hs
  | cons action actions ih =>
    obtain ⟨hne, hrest⟩ := List.ne_and_not_mem_of_not_mem_cons h
    refine ih ?_ hrest
    cases action with
    | leave => exact hs
    | set value =>
      have hvalue : value = b := by
        cases value <;> cases b <;> first | rfl | exact absurd rfl hne
      cases hopen : s.isOpen with
      | true =>
        rw [after_set_of_open hopen]
        exact hvalue
      | false =>
        rw [after_set_of_left hopen]
        exact hs

theorem Stays.after (h : m.Stays b) (n : Nat) : (m.after n).Stays b :=
  ⟨value_foldl_after h.1 fun hmem => h.2 (List.mem_of_mem_take hmem),
    fun hmem => h.2 (List.mem_of_mem_drop hmem)⟩

theorem fresh_foldl_after {actions : List SenderAction} {s : Signal}
    (hs : s.value = true → s.unseen = true) :
    (actions.foldl Signal.after s).value = true → (actions.foldl Signal.after s).unseen = true := by
  induction actions generalizing s with
  | nil => exact hs
  | cons action actions ih =>
    refine ih ?_
    cases action with
    | leave => exact hs
    | set value =>
      cases hopen : s.isOpen with
      | true =>
        rw [after_set_of_open hopen]
        exact fun _ => rfl
      | false =>
        rw [after_set_of_left hopen]
        exact hs

theorem Fresh.after (h : m.Fresh) (n : Nat) : (m.after n).Fresh := fresh_foldl_after h

theorem fresh_of_value (h : m.signal.value = false) : m.Fresh := fun h' => by
  rw [h] at h'
  cases h'

/-- The sender comes nearer to the end of its plan with each change. -/
theorem changes_after_le (m : Moment) (n : Nat) : (m.after n).changes ≤ m.changes := by
  unfold changes after
  cases n with
  | zero => exact Nat.le_refl _
  | succ n =>
    simp only [List.length_drop]
    cases hplan : m.plan with
    | nil => simp
    | cons action plan =>
      simp only [List.length_cons]
      split <;> split <;> omega

theorem keeps_of_wakes {deadline : Nanos} {woken : Woken} (h : c.Wakes m deadline woken m') :
    m'.signal.value = m.signal.value ∧ m'.plan = m.plan := by
  cases woken with
  | deadline =>
    cases h
    exact ⟨rfl, rfl⟩
  | change =>
    obtain ⟨-, t, -, -, rfl⟩ := h
    exact ⟨rfl, rfl⟩
  | gone =>
    obtain ⟨-, t, -, -, rfl⟩ := h
    exact ⟨rfl, rfl⟩

/-- The value and the plan only change by what the sender does. -/
theorem keeps_of_replies {r : WorkRequest} {a : r.Answer} (h : c.Replies m r a m') :
    m'.signal.value = m.signal.value ∧ m'.plan = m.plan := by
  unfold Surroundings.Replies at h
  split at h
  all_goals first
    | exact keeps_of_wakes h
    | simp_all [read, Signal.seen]

/-- Only a look counts as one. -/
theorem fetches_of_replies {r : WorkRequest} {a : r.Answer} (h : c.Replies m r a m')
    (hr : ∀ project id location, r ≠ .get project id location) : m'.fetches = m.fetches := by
  unfold Surroundings.Replies at h
  split at h
  case h_7 woken =>
    cases woken with
    | deadline =>
      cases h
      rfl
    | change =>
      obtain ⟨-, t, -, -, rfl⟩ := h
      rfl
    | gone =>
      obtain ⟨-, t, -, -, rfl⟩ := h
      rfl
  all_goals simp_all [read, Progress.ticked, Progress.slept]

theorem Stays.answers {r : WorkRequest} {a : r.Answer} (h : m.Stays b)
    (hans : c.Answers m r a m') : m'.Stays b := by
  obtain ⟨n, -, hreplies⟩ := hans
  obtain ⟨hvalue, hplan⟩ := keeps_of_replies hreplies
  obtain ⟨hafter, hnot⟩ := h.after n
  exact ⟨hvalue.trans hafter, by rwa [hplan]⟩

end Moment

/-- Every request gets an answer. -/
theorem Surroundings.withSender_willing (c : Surroundings) : c.withSender.Willing := by
  have hreplies : ∀ (m : Moment) (r : WorkRequest), ∃ a m', c.Replies m r a m' := by
    intro m r
    cases r with
    | create => exact ⟨_, m, rfl, rfl⟩
    | get => exact ⟨_, _, rfl, rfl⟩
    | table => exact ⟨_, m, rfl, rfl⟩
    | locally r =>
      cases r with
      | log => exact ⟨(), _, rfl⟩
      | now => exact ⟨_, _, rfl, rfl⟩
      | draw => exact ⟨_, _, rfl, rfl⟩
      | signal => exact ⟨_, _, rfl, rfl⟩
      | takeSignal => exact ⟨_, _, rfl, rfl⟩
      | waitForSignal => exact ⟨Woken.deadline, _, rfl⟩
      | waitUntil => exact ⟨(), _, rfl⟩
      | tick => exact ⟨(), _, rfl⟩
      | say => exact ⟨_, _, rfl, rfl⟩
      | complain => exact ⟨_, _, rfl, rfl⟩
  intro m r
  obtain ⟨a, m', h⟩ := hreplies m r
  exact ⟨a, m', 0, fun _ => rfl, h⟩

end WarehouseJobs.Waiting
