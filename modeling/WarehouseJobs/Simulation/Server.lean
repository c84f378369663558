-- A server that plays by a script, and the world around a program that talks to it. Nothing
-- takes time but waiting, and everything that is told is kept in order.
import WarehouseJobs.CommandLine.Launch
import WarehouseJobs.Logging.Lines

namespace WarehouseJobs.Simulation

/-! ## The script -/

/-- What the server does with a request. -/
inductive ServerReply where
  /-- Answers. The body may name the job that was created last. -/
  | answer (status : UInt16) (body : String → String)
  /-- Answers, but the connection breaks in the middle of the body. -/
  | breakOff (status : UInt16)
  /-- Closes the connection without an answer. -/
  | close
  /-- Never answers. -/
  | hang

/-- What is said when the script is over. -/
def overdue : ServerReply := .answer 410 fun _ => "script exhausted"

/-- Whether an answer of this status has a body at all. -/
def hasBody (status : UInt16) : Bool := status ≠ 204 && status ≠ 304

/-- What comes of a request. -/
def ServerReply.outcome (r : ServerReply) (request : HttpRequest) (lastJob : String) :
    Except ConnectionFault HttpAnswer :=
  if request.timeoutSeconds = 0 then .error .timedOut
  else
    match r with
    | .answer status body => .ok ⟨status, some (if hasBody status then body lastJob else "")⟩
    | .breakOff status => .ok ⟨status, if hasBody status then none else some ""⟩
    | .close => .error .interrupted
    | .hang => .error .timedOut

/-! ## The world -/

/-- Something that was told. -/
inductive Remark where
  | event (e : LogEvent)
  | said (line : String)
  | complained (line : String)

structure ServerWorld where
  clock : Nanos := 0
  replies : List ServerReply
  /-- All requests so far, the last one first. -/
  requests : List HttpRequest := []
  /-- The id of the job that was created last. -/
  lastJob : String := ""
  signal : Signal := { value := false }
  /-- An interrupt that comes in the first wait after so many requests. -/
  interrupt : Option (Interrupt × Nat) := none
  drawn : Nat := 0
  uuidOf : Nat → Uuid
  /-- All that was told, the last remark first. -/
  remarks : List Remark := []

namespace ServerWorld

/-- The id of the job that a request creates. -/
def createdJob? (request : HttpRequest) : Option String :=
  ((request.body.bind Wire.Job.ofJson?).bind Wire.Job.name).map Wire.JobName.id

def receive (w : ServerWorld) (request : HttpRequest) :
    Except ConnectionFault HttpAnswer × ServerWorld :=
  let lastJob := (createdJob? request).getD w.lastJob
  let (reply, replies) := match w.replies with
    | r :: rest => (r, rest)
    | [] => (overdue, [])
  (reply.outcome request lastJob,
    { w with replies, lastJob, requests := request :: w.requests })

/-- Lets an interrupt come if its time has come. -/
def interrupted (w : ServerWorld) : ServerWorld :=
  match w.interrupt with
  | none => w
  | some (i, count) =>
    if w.requests.length < count then w
    else
      { w with
        interrupt := none
        signal := Interrupt.reach w.signal
        remarks := .complained Interrupt.notice :: .event i.event :: w.remarks }

def wait (w : ServerWorld) (deadline : Nanos) : ServerWorld :=
  { w with clock := max w.clock deadline }

def answerLocally (w : ServerWorld) : (r : LocalRequest) → r.Answer × ServerWorld
  | .log e => ((), { w with remarks := .event e :: w.remarks })
  | .now => (w.clock, w)
  | .draw => (w.uuidOf w.drawn, { w with drawn := w.drawn + 1 })
  | .signal => (w.signal.value, w)
  | .takeSignal => (w.signal.value, { w with signal := w.signal.seen })
  | .waitForSignal deadline =>
    let w := w.interrupted
    match w.signal.noticed? with
    | some .change => (Woken.change, { w with signal := w.signal.seen })
    | some .gone => (Woken.gone, w)
    | none => (Woken.deadline, w.wait deadline)
  | .waitUntil deadline => ((), w.interrupted.wait deadline)
  | .tick _ => ((), w)
  | .say line => ((), { w with remarks := .said line :: w.remarks })
  | .complain line => ((), { w with remarks := .complained line :: w.remarks })

def answer (w : ServerWorld) : (r : HttpStep) → r.Answer × ServerWorld
  | .send request => w.receive request
  | .locally r => w.answerLocally r

/-- Runs a program in this world. -/
def run {α : Type} (p : Http α) (w : ServerWorld) : Option α × ServerWorld :=
  p.runIn ServerWorld.answer w

/-! ## What was told -/

/-- The standard output. -/
def output (w : ServerWorld) : String :=
  String.join (w.remarks.reverse.filterMap fun
    | .said line => some (line ++ "\n")
    | _ => none)

/-- The standard error, with the events that a filter lets through. -/
def errorOutput (w : ServerWorld) (filter : LogFilter) : String :=
  String.join (w.remarks.reverse.filterMap fun
    | .complained line => some (line ++ "\n")
    | .event e => if filter.allows e then some (e.line ++ "\n") else none
    | .said _ => none)

end ServerWorld
end WarehouseJobs.Simulation
