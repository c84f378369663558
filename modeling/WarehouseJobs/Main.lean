-- The program on a real machine: files, the environment, the clock, the terminal, interrupts
-- and plain connections. What to do is decided elsewhere; here it is only done.
import Std.Async.DNS
import Std.Async.Signal
import Std.Async.TCP
import Std.Time.DateTime.Timestamp
import WarehouseJobs.CommandLine.Help
import WarehouseJobs.CommandLine.Launch
import WarehouseJobs.Http.Message
import WarehouseJobs.Logging.Lines
import WarehouseJobs.Settings.Load
import WarehouseJobs.Settings.VariableFile

namespace WarehouseJobs.Terminal

/-! ## Time and files -/

def instant : IO Instant := do
  let micros := (← Std.Time.Timestamp.now).toNanosecondsSinceUnixEpoch.val / 1000
  return ⟨micros / 1000000, (micros % 1000000).toNat * 1000⟩

/-- The text of an error of the system. -/
def errorShown : IO.Error → String
  | .noFileOrDirectory _ code why => s!"{why} (os error {code})"
  | .permissionDenied _ code why => s!"{why} (os error {code})"
  | .inappropriateType _ code why => s!"{why} (os error {code})"
  | .alreadyExists _ code why => s!"{why} (os error {code})"
  | .otherError code why => s!"{why} (os error {code})"
  | e => e.toString

def readSettings (path : String) : IO Settings.Source := do
  try
    let bytes ← IO.FS.readBinFile path
    match String.fromUTF8? bytes with
    | some s => return .text s
    | none => return .unreadable Settings.notUtf8
  catch
    | .noFileOrDirectory .. => return .missing
    | e => return .unreadable (errorShown e)

/-- The file of variables in this directory, or in the nearest one above that has one. -/
def readVariables : IO String := do
  let mut path := ".env"
  for _ in (← IO.currentDir).components do
    try
      return ← IO.FS.readFile path
    catch _ =>
      path := "../" ++ path
  return ""

/-- The variables of these names that are set. -/
def givenVariables (names : List String) : IO Environment :=
  names.filterMapM fun name => do return (← IO.getEnv name).map fun value => (name, value)

/-! ## The terminal -/

structure Terminal where
  /-- Without a plan, no events are told. -/
  plan : Option LogPlan
  signal : IO.Ref Signal
  /-- Each is over as soon as its interrupt has come. -/
  interrupts : List (Interrupt × Std.Async.AsyncTask Int)

namespace Terminal

/-- The line of an event in the file that is current now. -/
def keep (file : LogFile) (now : Instant) (e : LogEvent) : IO Unit := do
  let day := now.dayShown
  let name := file.rotation.fileName day (day ++ "-" ++ now.hourShown)
  let h ← IO.FS.Handle.mk (file.directory ++ "/" ++ name) .append
  match e.toJson with
  | .record fields =>
    h.putStrLn (Json.record (("timestamp", .text now.shown) :: fields)).write
  | _ => pure ()

def tell (t : Terminal) (e : LogEvent) : IO Unit := do
  if let some plan := t.plan then
    if plan.filter.allows e then
      let now ← instant
      let gap := String.ofList (List.replicate (6 - e.level.name.length) ' ')
      IO.eprintln (now.shown ++ gap ++ e.line)
      if let some file := plan.file then keep file now e

/-- Looks whether an interrupt has come. Only the first one counts. -/
def look (t : Terminal) : IO Unit := do
  for (i, task) in t.interrupts do
    if (← t.signal.get).isOpen && (← IO.hasFinished task) then
      t.tell i.event
      IO.eprintln Interrupt.notice
      t.signal.modify Interrupt.reach

/-- How long we sleep between two looks, in milliseconds. -/
def nap : UInt32 := 10

partial def waitForSignal (t : Terminal) (deadline : Nanos) : IO Woken := do
  t.look
  let s ← t.signal.get
  match s.noticed? with
  | some .change =>
    t.signal.set s.seen
    return .change
  | some .gone => return .gone
  | none =>
    if deadline ≤ (← IO.monoNanosNow) then return .deadline
    else
      IO.sleep nap
      t.waitForSignal deadline

partial def waitUntil (t : Terminal) (deadline : Nanos) : IO Unit := do
  t.look
  if (← IO.monoNanosNow) < deadline then
    IO.sleep nap
    t.waitUntil deadline

def draw : IO Uuid := do
  let bytes ← IO.getRandomBytes 32
  return Uuid.ofRandom fun i => (bytes.get! i).toNat

def locally (t : Terminal) : (r : LocalRequest) → IO r.Answer
  | .log event => t.tell event
  | .now => do return (← IO.monoNanosNow)
  | .draw => draw
  | .signal => do
    t.look
    return (← t.signal.get).value
  | .takeSignal => do
    let s ← t.signal.get
    t.signal.set s.seen
    return s.value
  | .waitForSignal deadline => t.waitForSignal deadline
  | .waitUntil deadline => t.waitUntil deadline
  | .tick _ => pure ()
  | .say line => IO.println line
  | .complain line => IO.eprintln line

/-! ## Connections -/

partial def receiveAll (s : Std.Async.TCP.Socket.Client) (bytes : ByteArray) :
    Std.Async.Async ByteArray := do
  match ← s.recv? 65536 with
  | some more => receiveAll s (bytes ++ more)
  | none => return bytes

def socketAddress (ip : Std.Net.IPAddr) (port : UInt16) : Std.Net.SocketAddress :=
  match ip with
  | .v4 addr => .v4 ⟨addr, port⟩
  | .v6 addr => .v6 ⟨addr, port⟩

/-- A host without the brackets around a numeric address. -/
def bareHost (host : String) : String :=
  String.ofList (host.toList.filter fun c => c ≠ '[' && c ≠ ']')

def talk (r : HttpRequest) : Std.Async.Async (Option HttpAnswer) := do
  let ips ← Std.Async.DNS.getAddrInfo (bareHost (r.address.host.getD "")) ""
  match ips[0]? with
  | none => return none
  | some ip =>
    let socket ← Std.Async.TCP.Socket.Client.mk
    socket.connect (socketAddress ip (UInt16.ofNat (r.address.port.getD 80)))
    socket.send (HttpMessage.requestText r).toUTF8
    return HttpMessage.answer? (← receiveAll socket ByteArray.empty).toList

/-- Waits for an answer, but not longer than allowed. -/
partial def awaitAnswer (deadline : Nanos) (task : Task (Except IO.Error (Option HttpAnswer))) :
    IO (Except ConnectionFault HttpAnswer) := do
  if ← IO.hasFinished task then
    match task.get with
    | .ok (some answer) => return .ok answer
    | _ => return .error .interrupted
  else if deadline ≤ (← IO.monoNanosNow) then return .error .timedOut
  else
    IO.sleep nap
    awaitAnswer deadline task

/-- Sends a request. Only connections without encryption can be made. -/
def send (r : HttpRequest) : IO (Except ConnectionFault HttpAnswer) := do
  if r.address.scheme ≠ "http" then return .error .interrupted
  else
    let now ← IO.monoNanosNow
    let task ← IO.asTask (talk r).block
    awaitAnswer (now + r.timeoutSeconds.toNat * Nanos.perSecond) task

def answer (t : Terminal) : (r : HttpStep) → IO r.Answer
  | .send request => send request
  | .locally r => t.locally r

/-- Carries out a program, request by request. -/
def carryOut {α : Type} (t : Terminal) : Http α → IO (Option α)
  | .done a => pure (some a)
  | .pending => pure none
  | .ask request next => do t.carryOut (next (← t.answer request))

end Terminal

/-! ## Start and end -/

def sayLines (lines : List String × List String) : IO Unit := do
  for line in lines.1 do IO.println line
  for line in lines.2 do IO.eprintln line

/-- The interrupts that are listened for. -/
def listen : IO (List (Interrupt × Std.Async.AsyncTask Int)) := do
  let keyboard ← Std.Async.Signal.Waiter.mk .sigint false
  let termination ← Std.Async.Signal.Waiter.mk .sigterm false
  return [(.keyboard, ← keyboard.wait), (.termination, ← termination.wait)]

/-- So many looks at a job are never taken. -/
def rounds : Nat := Nat.pow 2 64

/-- Makes the directory that a plan asks for. -/
def makeLogDirectory : Except Fault LogPlan → IO (Except String Unit)
  | .ok { file := some file, .. } => do
    try
      IO.FS.createDirAll file.directory
      return .ok ()
    catch e => return .error (errorShown e)
  | _ => return .ok ()

def launch (env : Environment) (i : Invocation) : IO UInt32 := do
  let source ← readSettings i.settingsPath
  let text := match source with
    | .text s => s
    | _ => ""
  let more ← givenVariables ((Substitution.names text).filter fun name => (env.get? name).isNone)
  let env := env ++ more
  let found := Settings.ofSource env i.settingsPath source
  let made ← makeLogDirectory (Launch.logPlan env i found fun _ => .ok ())
  let planned := Launch.logPlan env i found fun _ => made
  let t : Terminal :=
    { plan := planned.toOption, signal := ← IO.mkRef { value := false }, interrupts := ← listen }
  match ← t.carryOut (Launch.start planned i found rounds) with
  | some code => return code.toUInt32
  | none => return ExitCode.fatal.toUInt32

end WarehouseJobs.Terminal

open WarehouseJobs in
def main (words : List String) : IO UInt32 := do
  let text ← Terminal.readVariables
  let names := [Invocation.settingsVariable, Invocation.logLevelVariable, Launch.filterVariable] ++
    Overrides.all.map Overrides.Override.name ++ VariableFile.words text
  let env := VariableFile.extend (← Terminal.givenVariables names) text
  match Invocation.ofWords env words with
  | .error fault =>
    Terminal.sayLines (Help.ofFault Launch.version fault)
    return fault.exitCode.toUInt32
  | .ok i => Terminal.launch env i
