-- Runs in a world that answers at once. What the parts of a program do in turn is what the
-- whole does, and what every answer keeps is kept to the end.
import WarehouseJobs.Proofs.Programs.Turns

namespace WarehouseJobs.Program

variable {S : Signature} {α β W : Type} {answer : W → (r : S.Request) → S.Answer r × W}

theorem runIn_ask (r : S.Request) (next : S.Answer r → Program S α) (w : W) :
    runIn answer (ask r next) w = runIn answer (next (answer w r).1) (answer w r).2 := rfl

/-- A request by itself gives its answer. -/
theorem runIn_request {r : S.Request} {a : S.Answer r} {w w' : W} (h : answer w r = (a, w')) :
    runIn answer (ask r done) w = (some a, w') := by
  rw [runIn_ask, h]
  rfl

theorem runIn_bind (p : Program S α) (f : α → Program S β) (w : W) :
    runIn answer (p >>= f) w =
      match runIn answer p w with
      | (some a, w') => runIn answer (f a) w'
      | (none, w') => (none, w') := by
  show runIn answer (bind p f) w = _
  induction p generalizing w with
  | done a => rfl
  | pending => rfl
  | ask r next ih => exact ih _ _

theorem runIn_bind_of_some {p : Program S α} {a : α} {w w' : W}
    (h : runIn answer p w = (some a, w')) (f : α → Program S β) :
    runIn answer (p >>= f) w = runIn answer (f a) w' := by
  rw [runIn_bind, h]

theorem runIn_bind_of_none {p : Program S α} {w w' : W}
    (h : runIn answer p w = (none, w')) (f : α → Program S β) :
    runIn answer (p >>= f) w = (none, w') := by
  rw [runIn_bind, h]

/-- A run that ends has turns. -/
theorem ends_of_runIn {p : Program S α} {w : W} {a : α} (h : (runIn answer p w).1 = some a) :
    ∃ ts, p.Ends ts a := by
  induction p generalizing w with
  | done b =>
    obtain rfl := Option.some.inj h
    exact ⟨[], .here _⟩
  | pending => cases h
  | ask r next ih =>
    obtain ⟨ts, hends⟩ := ih _ h
    exact ⟨_, .turn hends⟩

/-- What each answer keeps, a run keeps. -/
theorem runIn_keeps {P : W → Prop} (hkeep : ∀ w r, P w → P (answer w r).2) (p : Program S α)
    {w : W} (h : P w) : P (runIn answer p w).2 := by
  induction p generalizing w with
  | done a => exact h
  | pending => exact h
  | ask r next ih => exact ih _ (hkeep _ _ h)

end WarehouseJobs.Program
