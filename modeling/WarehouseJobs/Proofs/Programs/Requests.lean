-- How each request shows in the turns of a program: it comes first, with its answer, and the
-- rest of the turns are those of the program that goes on with the answer.
import WarehouseJobs.Http.Exchange
import WarehouseJobs.Proofs.Programs.Turns

namespace WarehouseJobs

open Program

/-- The answers of surroundings in which nothing happens. -/
def LocalRequest.quiet : (r : LocalRequest) → r.Answer
  | .log _ | .waitUntil _ | .tick _ | .say _ | .complain _ => ()
  | .now => (0 : Nat)
  | .draw => Uuid.ofRandom fun _ => 0
  | .signal | .takeSignal => false
  | .waitForSignal _ => Woken.deadline

/-! ## The signal -/

/-- Asks for the value of the signal, or waits for a change of it. -/
def LocalRequest.asksSignal : LocalRequest → Bool
  | .signal | .takeSignal | .waitForSignal _ => true
  | _ => false

def WorkRequest.asksSignal : WorkRequest → Bool
  | .locally r => r.asksSignal
  | _ => false

def HttpStep.asksSignal : HttpStep → Bool
  | .locally r => r.asksSignal
  | .send _ => false

/-! ## The turns of a request -/

variable {β : Type} {b : β}

namespace Work

variable {ts : List (Turn WorkSignature)}

theorem ends_create_iff {project : ProjectId} {job : JobDescription}
    {f : Except RemoteFault JobHandle → Work β} :
    (create project job >>= f).Ends ts b ↔
      ∃ answer rest, ts = ⟨.create project job, answer⟩ :: rest ∧ (f answer).Ends rest b :=
  ends_ask_iff

theorem ends_get_iff {project : ProjectId} {id : JobId} {location : Option String}
    {f : Except RemoteFault JobHandle → Work β} :
    (get project id location >>= f).Ends ts b ↔
      ∃ answer rest, ts = ⟨.get project id location, answer⟩ :: rest ∧ (f answer).Ends rest b :=
  ends_ask_iff

theorem ends_table_iff {reference : TableReference} {f : Except RemoteFault Table → Work β} :
    (table reference >>= f).Ends ts b ↔
      ∃ answer rest, ts = ⟨.table reference, answer⟩ :: rest ∧ (f answer).Ends rest b :=
  ends_ask_iff

theorem ends_log_iff {event : LogEvent} {f : Unit → Work β} :
    (log event >>= f).Ends ts b ↔
      ∃ rest, ts = ⟨.locally (.log event), ()⟩ :: rest ∧ (f ()).Ends rest b :=
  ends_ask_iff.trans ⟨fun ⟨_, rest, h⟩ => ⟨rest, h⟩, fun ⟨rest, h⟩ => ⟨(), rest, h⟩⟩

theorem ends_now_iff {f : Nanos → Work β} :
    (now >>= f).Ends ts b ↔
      ∃ time rest, ts = ⟨.locally .now, time⟩ :: rest ∧ (f time).Ends rest b :=
  ends_ask_iff

theorem ends_draw_iff {f : Uuid → Work β} :
    (draw >>= f).Ends ts b ↔
      ∃ u rest, ts = ⟨.locally .draw, u⟩ :: rest ∧ (f u).Ends rest b :=
  ends_ask_iff

theorem asksAfter_draw {f : Uuid → Work β} {u : Uuid} {r : WorkRequest}
    (h : (f u).AsksAfter ts r) : (draw >>= f).AsksAfter (⟨.locally .draw, u⟩ :: ts) r := h.turn

theorem asksAfter_now {f : Nanos → Work β} {time : Nanos} {r : WorkRequest}
    (h : (f time).AsksAfter ts r) : (now >>= f).AsksAfter (⟨.locally .now, time⟩ :: ts) r :=
  h.turn

end Work

namespace Http

variable {ts : List (Turn HttpSignature)}

theorem ends_send_iff {request : HttpRequest}
    {f : Except ConnectionFault HttpAnswer → Http β} :
    (send request >>= f).Ends ts b ↔
      ∃ answer rest, ts = ⟨.send request, answer⟩ :: rest ∧ (f answer).Ends rest b :=
  ends_ask_iff

theorem ends_log_iff {event : LogEvent} {f : Unit → Http β} :
    (log event >>= f).Ends ts b ↔
      ∃ rest, ts = ⟨.locally (.log event), ()⟩ :: rest ∧ (f ()).Ends rest b :=
  ends_ask_iff.trans ⟨fun ⟨_, rest, h⟩ => ⟨rest, h⟩, fun ⟨rest, h⟩ => ⟨(), rest, h⟩⟩

/-- A sleep asks for the time, and waits. -/
theorem ends_sleep_iff {millis : UInt64} {f : Unit → Http β} :
    (sleep millis >>= f).Ends ts b ↔
      ∃ (time : Nanos) (rest : List (Turn HttpSignature)),
        ts = ⟨.locally .now, time⟩ ::
          ⟨.locally (.waitUntil (time + .ofMillis millis)), ()⟩ :: rest ∧
            (f ()).Ends rest b := by
  constructor
  · intro h
    obtain ⟨time, waits, rfl, hwaits⟩ := ends_ask_iff.mp h
    obtain ⟨slept, rest, hrest, hf⟩ := ends_ask_iff.mp hwaits
    exact ⟨time, rest, by rw [hrest]; rfl, hf⟩
  · rintro ⟨time, rest, rfl, h⟩
    exact .turn (.turn h)

end Http
end WarehouseJobs
