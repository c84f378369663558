-- The service, reached over the web: where its resources are, what an answer means, and which
-- requests are tried again.
import WarehouseJobs.Http.Exchange
import WarehouseJobs.Json.Writer
import WarehouseJobs.Settings.Schema
import WarehouseJobs.Text.Category
import WarehouseJobs.Wire.Faults

namespace WarehouseJobs

structure Client where
  /-- Without slashes at its end. -/
  base : String
  token : Option Secret
  timeoutSeconds : UInt64
  retry : RetrySettings

namespace Client

def target : String := "jobrelay::adapters::warehouse::client"

/-- The client that the settings describe. -/
def ofSettings (s : ServiceSettings) : Client :=
  { base := String.ofList (Text.dropEndWhile (· = '/') s.baseUrl.toList)
    token := s.accessToken
    timeoutSeconds := s.timeoutSeconds
    retry := s.retry }

/-- How the HTTP library gets ready for answers that may take so many seconds, or why it
cannot. -/
abbrev Builder := (timeoutSeconds : UInt64) → Except String Unit

def Builder.ready : Builder := fun _ => .ok ()

/-- The client of the settings, if the library can get ready for it. -/
def build (builder : Builder) (s : ServiceSettings) : Except Fault Client :=
  match builder s.timeoutSeconds with
  | .error why => .error (.configuration (.noHttpClient why))
  | .ok () => .ok (ofSettings s)

theorem build_of_ready {builder : Builder} {s : ServiceSettings}
    (h : builder s.timeoutSeconds = .ok ()) : build builder s = .ok (ofSettings s) := by
  rw [build, h]

theorem build_eq_error_iff {builder : Builder} {s : ServiceSettings} {fault : Fault} :
    build builder s = .error fault ↔
      ∃ why, builder s.timeoutSeconds = .error why ∧
        fault = .configuration (.noHttpClient why) := by
  unfold build
  cases builder s.timeoutSeconds <;> simp [eq_comm]

/-! ## Places -/

def jobsUrl (c : Client) (project : ProjectId) : String :=
  c.base ++ "/projects/" ++ project.text ++ "/jobs"

def jobUrl (c : Client) (project : ProjectId) (id : JobId) : String :=
  c.jobsUrl project ++ "/" ++ id.text

def tableUrl (c : Client) (t : TableReference) : String :=
  c.base ++ "/projects/" ++ t.project ++ "/datasets/" ++ t.dataset ++ "/tables/" ++ t.table

/-! ## Requests -/

/-- What may stand in the header of a request. -/
def isHeaderChar (c : Char) : Bool := (0x20 ≤ c.toNat && c.toNat ≠ 0x7F) || c = '\t'

/-- The header that shows the token. -/
def authorization (c : Client) : Except ConnectionFault (Option String) :=
  match c.token with
  | none => .ok none
  | some token =>
    if token.exposed.toList.all isHeaderChar then .ok (some ("Bearer " ++ token.exposed))
    else .error .malformed

/-- An address that a request can be sent to. -/
def place (url : String) : Except ConnectionFault Address :=
  match Address.ofText url with
  | .error _ => .error .malformed
  | .ok address =>
    if ["http", "https"].contains address.scheme && address.host.isSome then .ok address
    else .error .malformed

/-- A request for `url`, with one field in its query if it is given. -/
def request (c : Client) (method : HttpMethod) (url : String) (field : Option (String × String))
    (body : Option Json) : Except ConnectionFault HttpRequest :=
  match place url, c.authorization with
  | .error fault, _ => .error fault
  | _, .error fault => .error fault
  | .ok address, .ok authorization =>
    .ok
      { method
        address :=
          match field with
          | some (name, value) => address.withField name value
          | none => address
        authorization, body
        timeoutSeconds := c.timeoutSeconds }

/-! ## Answers -/

def isSuccess (status : UInt16) : Bool := 200 ≤ status && status < 300

/-- What an answer means. `read` makes a value of the JSON text of a success. -/
def meaning {α β : Type} (read : Json → Option α) (value : α → UInt16 → Except RemoteFault β)
    (answer : HttpAnswer) : Except RemoteFault β :=
  if isSuccess answer.status then
    match answer.text? with
    | none => .error (.ofTransport "failed to read response body")
    | some body =>
      match (Json.ofText? body).bind read with
      | some a => value a answer.status
      | none => .error (.invalidResponse answer.status "failed to parse response body")
  else .error (Wire.faultOf answer.status (answer.text?.getD ""))

/-- One try. -/
def exchange {α β : Type} (request : Except ConnectionFault HttpRequest)
    (read : Json → Option α) (value : α → UInt16 → Except RemoteFault β) :
    Http (Except RemoteFault β) :=
  match request with
  | .error fault => .done (.error fault.fault)
  | .ok request => do
    match ← Http.send request with
    | .error fault => pure (.error fault.fault)
    | .ok answer => pure (meaning read value answer)

/-! ## Trying again -/

/-- The wait after a wait of `delay` milliseconds. -/
def nextDelay (s : RetrySettings) (delay : UInt64) : UInt64 :=
  min (delay.toFloat * s.backoffMultiplier).toUInt64 s.maxDelayMs

def retryEvent (s : RetrySettings) (attempt : Nat) (delay : UInt64) (fault : RemoteFault) :
    LogEvent :=
  ⟨.warn, target, "Retrying request after transient error",
    [("attempt", .number attempt), ("max_retries", .number s.maxRetries.toNat),
      ("delay_ms", .number delay.toNat), ("error", .plain fault.shown)]⟩

/-- Tries, and after a passing fault tries again up to `left` times. The `done` tries before
it count in what is told. -/
def retrying {α : Type} (s : RetrySettings) (operation : Http (Except RemoteFault α)) :
    (left : Nat) → (done : Nat) → (delay : UInt64) → Http (Except RemoteFault α)
  | 0, _, _ => operation
  | left + 1, done, delay => do
    match ← operation with
    | .ok a => pure (.ok a)
    | .error fault =>
      if fault.classify = .transient then do
        Http.log (retryEvent s (done + 1) delay fault)
        Http.sleep delay
        retrying s operation left (done + 1) (nextDelay s delay)
      else pure (.error fault)

/-- An operation with as many further tries as the settings allow. -/
def withRetries {α : Type} (c : Client) (operation : Http (Except RemoteFault α)) :
    Http (Except RemoteFault α) :=
  retrying c.retry operation c.retry.maxRetries.toNat 0 c.retry.initialDelayMs

/-! ## The service -/

def createdEvent (url : String) (job : JobDescription) : LogEvent :=
  ⟨.debug, target, "Creating remote job",
    [("url", .plain url), ("job", .plain job.reference.shown), ("kind", .text job.task.kind)]⟩

def jobEvent (url : String) (location : Option String) : LogEvent :=
  ⟨.trace, target, "Fetching remote job",
    [("url", .plain url), ("location", .plain (Text.quotedOption location))]⟩

def tableEvent (url : String) (t : TableReference) : LogEvent :=
  ⟨.debug, target, "Fetching table", [("url", .plain url), ("table", .plain t.shown)]⟩

def create (c : Client) (project : ProjectId) (job : JobDescription) :
    Http (Except RemoteFault JobHandle) := do
  let url := c.jobsUrl project
  Http.log (createdEvent url job)
  c.withRetries (exchange
    (c.request .post url none (some (Wire.Job.ofDescription job).toJson)) Wire.Job.ofJson?
    Wire.Job.handle)

def get (c : Client) (project : ProjectId) (id : JobId) (location : Option String) :
    Http (Except RemoteFault JobHandle) := do
  let url := c.jobUrl project id
  Http.log (jobEvent url location)
  c.withRetries (exchange
    (c.request .get url (location.map fun l => ("location", l)) none) Wire.Job.ofJson?
    Wire.Job.handle)

def table (c : Client) (t : TableReference) : Http (Except RemoteFault Table) := do
  let url := c.tableUrl t
  Http.log (tableEvent url t)
  c.withRetries (exchange (c.request .get url none none) Wire.TableInfo.ofJson?
    Wire.TableInfo.table)

/-- Answers what a program asks of the service over the web. -/
def serve (c : Client) : (r : WorkRequest) → Http r.Answer
  | .create project job => c.create project job
  | .get project id location => c.get project id location
  | .table reference => c.table reference
  | .locally r => Http.locally r

/-- A program that works with the service, as a program that talks to a server. -/
def overHttp {α : Type} (c : Client) (p : Work α) : Http α := p.translate c.serve

end Client
end WarehouseJobs
