-- Programs that work with a scripted service, at the same time and on one clock. Time only
-- goes on when every program waits, and then to the next moment at which something happens.
import WarehouseJobs.Signal
import WarehouseJobs.Simulation.Service

namespace WarehouseJobs.Simulation

/-! ## Behind the scenes -/

/-- What a request to the service comes to, step by step. -/
inductive StageRequest where
  | locally (r : LocalRequest)
  /-- The request arrives, and takes the next reply of the script. -/
  | arriveCreate (project : ProjectId) (job : JobDescription)
  | arriveGet (project : ProjectId) (id : JobId) (location : Option String)
  | arriveTable (reference : TableReference)
  | sleep (millis : Nat)
  /-- Lets the other programs go first. -/
  | giveWay
  | storeCreate (job : JobDescription)
  | storeGet (project : ProjectId) (id : JobId)

def StageRequest.Answer : StageRequest → Type
  | .locally r => r.Answer
  | .arriveCreate .. => Option (Reply HandleTemplate)
  | .arriveGet .. => Option (Reply HandleTemplate)
  | .arriveTable _ => Option (Reply Table)
  | .sleep _ => Unit
  | .giveWay => Unit
  | .storeCreate _ => Except RemoteFault JobHandle
  | .storeGet .. => Except RemoteFault JobHandle

abbrev StageSignature : Signature := ⟨StageRequest, StageRequest.Answer⟩

abbrev Staged (α : Type) := Program StageSignature α

def stage (r : StageRequest) : Staged r.Answer := .ask (S := StageSignature) r .done

def play {α β : Type} (r : Reply α) (f : α → β) : Staged (Except RemoteFault β) := do
  if r.delayMs ≠ 0 then stage (.sleep r.delayMs)
  match r.outcome with
  | .ok a => pure (.ok (f a))
  | .error fault => pure (.error fault)

/-- How the service answers. A store gives way once before it creates a job. -/
def serve : (r : WorkRequest) → Staged r.Answer
  | .locally r => stage (.locally r)
  | .create project job => do
    match ← stage (.arriveCreate project job) with
    | some reply => play reply fun t => t.handle job.reference
    | none => do
      stage .giveWay
      stage (.storeCreate job)
  | .get project id location => do
    match ← stage (.arriveGet project id location) with
    | some reply => play reply fun t => t.handle { project, id, location }
    | none => stage (.storeGet project id)
  | .table reference => do
    match ← stage (.arriveTable reference) with
    | some reply => play reply id
    | none => pure (.error exhausted)

/-! ## The world -/

structure World where
  clockMs : Nat := 0
  script : Script
  /-- All calls so far, the last one first. -/
  calls : List Call := []
  signal : Signal := { value := false }
  /-- What the sender of the signal will do, and when. -/
  timed : List (Nat × SenderAction) := []
  /-- What the sender does when the `n`th get arrives. -/
  onGet : List (Nat × SenderAction) := []
  gets : Nat := 0
  /-- When the ticks were, the last one first. -/
  ticks : List Nat := []
  drawn : Nat := 0
  uuidOf : Nat → Uuid

namespace World

def act (w : World) (actions : List SenderAction) : World :=
  { w with signal := actions.foldl Signal.after w.signal }

/-- The next reply of a list that is not used up. Only without a store is a list that is used
up an answer, too. -/
def nextReply {α : Type} (w : World) : List (Reply α) → Option (Reply α) × List (Reply α)
  | r :: rest => (some r, rest)
  | [] => (if w.script.store.isSome then none else some { outcome := .error exhausted }, [])

/-- Answers a request that takes no time. -/
def answer (w : World) : (r : StageRequest) → r.Answer × World
  | .locally (.log _) => ((), w)
  | .locally .now => (w.clockMs * Nanos.perMilli, w)
  | .locally .draw => (w.uuidOf w.drawn, { w with drawn := w.drawn + 1 })
  | .locally .signal => (w.signal.value, w)
  | .locally .takeSignal => (w.signal.value, { w with signal := w.signal.seen })
  | .locally (.waitForSignal _) => (Woken.deadline, w)
  | .locally (.waitUntil _) => ((), w)
  | .locally (.tick _) => ((), { w with ticks := w.clockMs :: w.ticks })
  | .locally (.say _) => ((), w)
  | .locally (.complain _) => ((), w)
  | .arriveCreate project job =>
    let (reply, creates) := w.nextReply w.script.creates
    (reply, { w with
      calls := .create project job w.clockMs :: w.calls
      script := { w.script with creates } })
  | .arriveGet project id location =>
    let gets := w.gets + 1
    let (reply, left) := w.nextReply w.script.gets
    (reply, { w with
      calls := .get project id location w.clockMs :: w.calls
      gets
      script := { w.script with gets := left } }.act
        (w.onGet.filterMap fun (n, action) => if n = gets then some action else none))
  | .arriveTable reference =>
    let (reply, tables) := match w.script.tables with
      | r :: rest => (some r, rest)
      | [] => (none, [])
    (reply, { w with
      calls := .table reference w.clockMs :: w.calls
      script := { w.script with tables } })
  | .sleep _ => ((), w)
  | .giveWay => ((), w)
  | .storeCreate job =>
    match w.script.store with
    | none => (.error exhausted, w)
    | some store =>
      let (result, store) := store.create job
      (result, { w with script := { w.script with store := some store } })
  | .storeGet project id =>
    match w.script.store with
    | none => (.error exhausted, w)
    | some store =>
      let (result, store) := store.get project id
      (result, { w with script := { w.script with store := some store } })

/-- The first whole millisecond that is not before a moment. -/
def msOf (moment : Nanos) : Nat := (moment + Nanos.perMilli - 1) / Nanos.perMilli

end World

/-! ## Tasks -/

/-- A program on its way. -/
inductive Task (α : Type) where
  | ready (p : Staged α)
  | asleep (wakeMs : Nat) (p : Staged α)
  | listening (deadlineMs : Nat) (next : Woken → Staged α)
  | ended (result : Option α)

namespace Task

variable {α : Type}

/-- Runs a program until it waits or ends. -/
def advance : Staged α → World → Task α × World
  | .done a, w => (.ended (some a), w)
  | .pending, w => (.ended none, w)
  | .ask (.locally (.waitForSignal deadline)) next, w =>
    match w.signal.noticed? with
    | some .change => advance (next .change) { w with signal := w.signal.seen }
    | some .gone => advance (next .gone) w
    | none =>
      if World.msOf deadline ≤ w.clockMs then advance (next .deadline) w
      else (.listening (World.msOf deadline) next, w)
  | .ask (.locally (.waitUntil deadline)) next, w =>
    if World.msOf deadline ≤ w.clockMs then advance (next ()) w
    else (.asleep (World.msOf deadline) (next ()), w)
  | .ask (.sleep millis) next, w =>
    if millis = 0 then advance (next ()) w else (.asleep (w.clockMs + millis) (next ()), w)
  | .ask .giveWay next, w => (.ready (next ()), w)
  | .ask r next, w =>
    let (a, w) := w.answer r
    advance (next a) w

/-- Lets a program go on if it can. -/
def poll (t : Task α) (w : World) : Task α × World :=
  match t with
  | .ready p => advance p w
  | .asleep wake p => if wake ≤ w.clockMs then advance p w else (t, w)
  | .listening deadline next =>
    match w.signal.noticed? with
    | some .change => advance (next .change) { w with signal := w.signal.seen }
    | some .gone => advance (next .gone) w
    | none => if deadline ≤ w.clockMs then advance (next .deadline) w else (t, w)
  | .ended _ => (t, w)

def isReady : Task α → Bool
  | .ready _ => true
  | _ => false

def isOver : Task α → Bool
  | .ended _ => true
  | _ => false

/-- When a waiting program goes on by itself. -/
def wakeMs? : Task α → Option Nat
  | .asleep wake _ => some wake
  | .listening deadline _ => some deadline
  | _ => none

def result? : Task α → Option α
  | .ended r => r
  | _ => none

end Task

/-! ## The schedule -/

variable {α : Type}

/-- Lets every program go on in turn. -/
def pollAll : List (Task α) → World → List (Task α) × World
  | [], w => ([], w)
  | t :: ts, w =>
    let (t, w) := t.poll w
    let (ts, w) := pollAll ts w
    (t :: ts, w)

/-- Puts the clock on, and lets the sender of the signal do what is due. -/
def World.goTo (w : World) (ms : Nat) : World :=
  let due := w.timed.filter fun (t, _) => t ≤ ms
  { w with clockMs := ms, timed := w.timed.filter fun (t, _) => ms < t }.act (due.map Prod.snd)

/-- Runs programs until all are over, for at most `rounds` rounds. -/
def runAll : (rounds : Nat) → List (Task α) → World → List (Task α) × World
  | 0, ts, w => (ts, w)
  | rounds + 1, ts, w =>
    let (ts, w) := pollAll ts w
    if ts.all Task.isOver then (ts, w)
    else if ts.any Task.isReady then runAll rounds ts w
    else
      match (ts.filterMap Task.wakeMs? ++ w.timed.map Prod.fst).min? with
      | some ms => runAll rounds ts (w.goTo ms)
      | none => (ts, w)

/-- Runs programs with the scripted service at the same time, and gives their results. -/
def runTogether (rounds : Nat) (ps : List (Work α)) (w : World) : List (Option α) × World :=
  let (ts, w) := runAll rounds (ps.map fun p => Task.ready (p.translate serve)) w
  (ts.map Task.result?, w)

/-- Runs one program with the scripted service. -/
def runAlone (rounds : Nat) (p : Work α) (w : World) : Option α × World :=
  let (results, w) := runTogether rounds [p] w
  (results.head?.join, w)

end WarehouseJobs.Simulation
