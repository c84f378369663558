-- Requests on their way over the wire. An answer may point somewhere else, and then the HTTP
-- library asks there before it hands an answer over, so that one request becomes several.
import WarehouseJobs.Http.Exchange

namespace WarehouseJobs

/-! ## The wire -/

structure WireAnswer where
  status : UInt16
  /-- Where else to ask, if the answer says so. -/
  location : Option String
  body : Option String
deriving DecidableEq, Repr

namespace WireAnswer

/-- What is left of an answer when it is handed over. -/
def handed (a : WireAnswer) : HttpAnswer := ⟨a.status, a.body⟩

def isRedirection (a : WireAnswer) : Bool :=
  300 ≤ a.status && a.status < 400 && a.location.isSome

end WireAnswer

/-- What a request is answered on the wire. -/
abbrev WireReply := Except ConnectionFault WireAnswer

inductive WireStep where
  | transmit (request : HttpRequest)
  | locally (r : LocalRequest)

def WireStep.Answer : WireStep → Type
  | .transmit _ => WireReply
  | .locally r => r.Answer

abbrev WireSignature : Signature := ⟨WireStep, WireStep.Answer⟩

/-- A program whose requests go over the wire as they are. -/
abbrev Wire (α : Type) := Program WireSignature α

/-! ## The library -/

/-- How the HTTP library carries requests. Where a redirection leads is its own affair and left open
here, but nothing else leads anywhere. -/
structure Carrier where
  /-- The request that an answer leads on to. Without one, the answer is handed over. -/
  leads : HttpRequest → WireAnswer → Option HttpRequest
  /-- How often a request is led on at most: ten times, if nobody asks for anything else. -/
  most : Nat
  redirected : ∀ request answer, (leads request answer).isSome → answer.isRedirection

namespace Carrier

/-- Sends a request, and goes where it is led, up to `left` times. -/
def deliver (c : Carrier) (left : Nat) (request : HttpRequest) :
    Wire (Except ConnectionFault HttpAnswer) :=
  .ask (S := WireSignature) (.transmit request) fun
    | .error fault => .done (.error fault)
    | .ok answer =>
      match c.leads request answer with
      | none => .done (.ok answer.handed)
      | some next =>
        match left with
        | 0 => .done (.error .ledAstray)
        | left + 1 => c.deliver left next

def serve (c : Carrier) : (r : HttpStep) → Wire r.Answer
  | .send request => c.deliver c.most request
  | .locally r => .ask (S := WireSignature) (.locally r) .done

end Carrier
end WarehouseJobs
