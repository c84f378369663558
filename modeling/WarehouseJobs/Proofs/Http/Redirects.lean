-- What goes over the wire while a program runs. Each send of the program begins with its own
-- request, every redirection adds one more, and of the answers only the last one of a send is
-- handed over.
import WarehouseJobs.Http.Redirects
import WarehouseJobs.Proofs.Http.Tries
import WarehouseJobs.Proofs.Programs.Facing

namespace WarehouseJobs

open Program

/-! ## What goes over the wire -/

/-- The answers that were handed to a program. -/
def Client.received (ts : List (Turn HttpSignature)) : List HttpAnswer :=
  (exchanges ts).filterMap fun x => x.2.toOption

theorem Client.received_append (us vs : List (Turn HttpSignature)) :
    received (us ++ vs) = received us ++ received vs := by
  simp [received, exchanges_append]

namespace Wire

/-- The requests among the turns of a program, with what each was answered on the wire. -/
def transmissions (ws : List (Turn WireSignature)) : List (HttpRequest × WireReply) :=
  ws.filterMap fun
    | ⟨.transmit request, reply⟩ => some (request, reply)
    | ⟨.locally _, _⟩ => none

theorem transmissions_append (us vs : List (Turn WireSignature)) :
    transmissions (us ++ vs) = transmissions us ++ transmissions vs := by
  simp [transmissions]

/-- A reply as it is handed over. -/
def handed (reply : WireReply) : Client.Reply := reply.map WireAnswer.handed

/-- The answers that came over the wire. -/
def arrived (ws : List (Turn WireSignature)) : List HttpAnswer :=
  (transmissions ws).filterMap fun x => (handed x.2).toOption

theorem arrived_append (us vs : List (Turn WireSignature)) :
    arrived (us ++ vs) = arrived us ++ arrived vs := by
  simp [arrived, transmissions_append]

end Wire

namespace Carrier

open Client Wire

variable {α : Type} {carrier : Carrier} {left : Nat} {request : HttpRequest} {reply : Reply}
  {us us' : List (Turn HttpSignature)} {ws ws' : List (Turn WireSignature)}

/-- What was answered on the wire leads on to this request. -/
def LeadsTo (carrier : Carrier) (x : HttpRequest × WireReply) (next : HttpRequest) : Prop :=
  ∃ answer, x.2 = .ok answer ∧ carrier.leads x.1 answer = some next

/-- What was answered on the wire leads on. -/
def isLed (carrier : Carrier) (x : HttpRequest × WireReply) : Bool :=
  match x.2 with
  | .ok answer => (carrier.leads x.1 answer).isSome
  | .error _ => false

/-- How many of the answers on the wire lead on. -/
def redirections (carrier : Carrier) (ws : List (Turn WireSignature)) : Nat :=
  (transmissions ws).countP carrier.isLed

theorem redirections_append (us vs : List (Turn WireSignature)) :
    carrier.redirections (us ++ vs) = carrier.redirections us + carrier.redirections vs := by
  simp [redirections, transmissions_append]

/-! ## One send -/

/-- What a program has sent by its turns `us`, and what went over the wire for it. -/
structure Carried (carrier : Carrier) (us : List (Turn HttpSignature))
    (ws : List (Turn WireSignature)) : Prop where
  few : (transmissions ws).length ≤ (exchanges us).length * (carrier.most + 1)
  paid : (transmissions ws).length ≤ (exchanges us).length + carrier.redirections ws
  own : ∀ x ∈ transmissions ws, (∃ y ∈ exchanges us, y.1 = x.1) ∨
    ∃ y ∈ transmissions ws, carrier.LeadsTo y x.1
  answered : (Client.received us).Sublist (Wire.arrived ws)

theorem Carried.append (h : Carried carrier us ws) (h' : Carried carrier us' ws') :
    Carried carrier (us ++ us') (ws ++ ws') where
  few := by
    rw [transmissions_append, exchanges_append, List.length_append, List.length_append,
      Nat.add_mul]
    exact Nat.add_le_add h.few h'.few
  paid := by
    rw [transmissions_append, exchanges_append, redirections_append, List.length_append,
      List.length_append, Nat.add_add_add_comm]
    exact Nat.add_le_add h.paid h'.paid
  own := by
    rw [transmissions_append, exchanges_append]
    refine List.forall_mem_append.mpr ⟨fun x hx => ?_, fun x hx => ?_⟩
    · refine (h.own x hx).imp ?_ ?_
      · exact fun ⟨y, hy, heq⟩ => ⟨y, List.mem_append_left _ hy, heq⟩
      · exact fun ⟨y, hy, hto⟩ => ⟨y, List.mem_append_left _ hy, hto⟩
    · refine (h'.own x hx).imp ?_ ?_
      · exact fun ⟨y, hy, heq⟩ => ⟨y, List.mem_append_right _ hy, heq⟩
      · exact fun ⟨y, hy, hto⟩ => ⟨y, List.mem_append_right _ hy, hto⟩
  answered := by
    rw [Client.received_append, Wire.arrived_append]
    exact h.answered.append h'.answered

/-- An answer that points nowhere else. -/
def plain (a : HttpAnswer) : WireAnswer := ⟨a.status, none, a.body⟩

end Carrier
end WarehouseJobs
