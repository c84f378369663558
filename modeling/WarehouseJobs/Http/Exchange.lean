-- One exchange with a server of the web: what is asked, and what may come of it.
import WarehouseJobs.Effects
import WarehouseJobs.Json.Value
import WarehouseJobs.Url.Address

namespace WarehouseJobs

/-! ## Requests and answers -/

inductive HttpMethod where
  | get
  | post
deriving DecidableEq, Repr

def HttpMethod.name : HttpMethod → String
  | .get => "GET"
  | .post => "POST"

structure HttpRequest where
  method : HttpMethod
  address : Address
  authorization : Option String
  /-- Sent as JSON. -/
  body : Option Json
  /-- How long to wait for the whole answer. -/
  timeoutSeconds : UInt64

structure HttpAnswer where
  status : UInt16
  /-- Nothing if the connection broke in the middle of the body. -/
  body : Option String
deriving DecidableEq, Repr

/-- The body as a text. A mark of the byte order in front of it is no part of the text. -/
def HttpAnswer.text? (a : HttpAnswer) : Option String :=
  a.body.map fun body =>
    match body.toList with
    | '\uFEFF' :: rest => String.ofList rest
    | _ => body

/-- Why no answer came. -/
inductive ConnectionFault where
  /-- The request could not even be put together. -/
  | malformed
  | interrupted
  | timedOut
  /-- Too many answers in a row pointed somewhere else. -/
  | ledAstray
deriving DecidableEq, Repr

namespace ConnectionFault

def message : ConnectionFault → String
  | .malformed => "builder error"
  | .interrupted => "error sending request"
  | .timedOut => "request timed out"
  | .ledAstray => "error following redirect"

def fault (f : ConnectionFault) : RemoteFault := .ofTransport f.message

end ConnectionFault

/-! ## Programs -/

/-- What a program that talks to a server asks of the world. -/
inductive HttpStep where
  | send (request : HttpRequest)
  | locally (r : LocalRequest)

def HttpStep.Answer : HttpStep → Type
  | .send _ => Except ConnectionFault HttpAnswer
  | .locally r => r.Answer

abbrev HttpSignature : Signature := ⟨HttpStep, HttpStep.Answer⟩

/-- A program that talks to a server. -/
abbrev Http (α : Type) := Program HttpSignature α

namespace Http

/-- Hands a request to the HTTP library. Where that follows redirections, more than this one request
goes over the wire: see `Carrier`. -/
def send (request : HttpRequest) : Http (Except ConnectionFault HttpAnswer) :=
  .ask (S := HttpSignature) (.send request) .done

def locally (r : LocalRequest) : Http r.Answer := .ask (S := HttpSignature) (.locally r) .done

def log (event : LogEvent) : Http Unit := locally (.log event)

/-- Waits for a number of milliseconds. -/
def sleep (millis : UInt64) : Http Unit := do
  let now : Nanos ← locally .now
  locally (.waitUntil (now + Nanos.ofMillis millis))

end Http
end WarehouseJobs
