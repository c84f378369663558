-- Programs as data: what a program asks of the world around it, and how it goes on with each
-- answer. What the world answers is left open, so one program can run against the network,
-- against a script, or against all services at once in a proof.

namespace WarehouseJobs

/-- What may be asked, and of which kind the answers are. -/
structure Signature where
  Request : Type
  Answer : Request → Type

/-- A program that ends with a value of `α`. -/
inductive Program (S : Signature) (α : Type) where
  | done (a : α)
  | ask (request : S.Request) (next : S.Answer request → Program S α)
  /-- The allowed number of rounds is used up, and the program would go on. -/
  | pending

namespace Program

variable {S T : Signature} {α β : Type}

def bind : Program S α → (α → Program S β) → Program S β
  | done a, f => f a
  | ask r next, f => ask r fun answer => bind (next answer) f
  | pending, _ => pending

instance : Monad (Program S) where
  pure := done
  bind := bind

/-- The same program in another world, where each request is a program of its own. -/
def translate (f : (r : S.Request) → Program T (S.Answer r)) : Program S α → Program T α
  | done a => done a
  | ask r next => bind (f r) fun answer => translate f (next answer)
  | pending => pending

/-- Runs a program against a world that answers at once and changes as it does. -/
def runIn {W : Type} (answer : W → (r : S.Request) → S.Answer r × W) :
    Program S α → W → Option α × W
  | done a, w => (some a, w)
  | ask r next, w =>
    let (a, w) := answer w r
    runIn answer (next a) w
  | pending, w => (none, w)

/-! ## Small laws -/

theorem bind_done (p : Program S α) : bind p done = p := by
  induction p with
  | done a => rfl
  | ask r next ih => simp only [bind, ih]
  | pending => rfl

theorem bind_assoc {γ : Type} (p : Program S α) (f : α → Program S β) (g : β → Program S γ) :
    bind (bind p f) g = bind p fun a => bind (f a) g := by
  induction p with
  | done a => rfl
  | ask r next ih => simp only [bind, ih]
  | pending => rfl

end Program
end WarehouseJobs
