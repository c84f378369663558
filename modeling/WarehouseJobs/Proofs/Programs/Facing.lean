-- Programs that face a responder whose answers are not settled beforehand. The laws here say
-- what holds at each request of such a run, at what price it goes on, what it comes to however
-- it is answered, and how these go together when programs are put one after the other.
import WarehouseJobs.Proofs.Programs.Asking
import WarehouseJobs.Proofs.Programs.Together

namespace WarehouseJobs.Program

variable {S : Signature} {α β : Type} {R : Responder S}

/-! ## What a run comes to -/

/-- After at most so many turns, however they are answered, the program and the state are of
this kind. -/
def Inevitably (R : Responder S) (P : Program S α → R.State → Prop) :
    Nat → Program S α → R.State → Prop
  | 0, p, s => P p s
  | n + 1, p, s => P p s ∨ ∃ r next, p = ask r next ∧ (∃ a s', R.Answers s r a s') ∧
      ∀ a s', R.Answers s r a s' → Inevitably R P n (next a) s'

/-- The program has ended, with a result and a state of this kind. -/
def Gave (Q : α → R.State → Prop) (p : Program S α) (s : R.State) : Prop :=
  ∃ a, p = done a ∧ Q a s

variable {P P' : Program S α → R.State → Prop} {Q : α → R.State → Prop} {m n : Nat}
  {p q : Program S α} {s s' : R.State} {ts : List (Turn S)}

theorem inevitably_now (h : P p s) : Inevitably R P n p s := by
  cases n with
  | zero => exact h
  | succ n => exact .inl h

theorem inevitably_done {a : α} (h : Q a s) : Inevitably R (Gave Q) n (done a) s :=
  inevitably_now ⟨a, rfl, h⟩

theorem inevitably_ask {r : S.Request} {next : S.Answer r → Program S α}
    (hwilling : ∃ a s', R.Answers s r a s')
    (h : ∀ a s', R.Answers s r a s' → Inevitably R P n (next a) s') :
    Inevitably R P (n + 1) (ask r next) s := .inr ⟨r, next, rfl, hwilling, h⟩

theorem Inevitably.mono (h : Inevitably R P m p s) (hP : ∀ p s, P p s → P' p s) (hmn : m ≤ n) :
    Inevitably R P' n p s := by
  induction m generalizing n p s with
  | zero => exact inevitably_now (hP _ _ h)
  | succ m ih =>
    obtain ⟨n, rfl⟩ : ∃ k, n = k + 1 := ⟨n - 1, by omega⟩
    rcases h with h | ⟨r, next, rfl, hwilling, h⟩
    · exact .inl (hP _ _ h)
    · exact .inr ⟨r, next, rfl, hwilling, fun a s' hans => ih (h a s' hans) (by omega)⟩

theorem Inevitably.bind {P : Program S β → R.State → Prop} {f : α → Program S β}
    (hp : Inevitably R (Gave Q) m p s) (hf : ∀ a s, Q a s → Inevitably R P n (f a) s) :
    Inevitably R P (m + n) (p >>= f) s := by
  induction m generalizing p s with
  | zero =>
    obtain ⟨a, rfl, ha⟩ := hp
    exact (hf a s ha).mono (fun _ _ h => h) (by omega)
  | succ m ih =>
    rcases hp with ⟨a, rfl, ha⟩ | ⟨r, next, rfl, hwilling, hnext⟩
    · exact (hf a s ha).mono (fun _ _ h => h) (by omega)
    · rw [Nat.succ_add]
      exact inevitably_ask hwilling fun a s' hans => ih (hnext a s' hans)

/-- One of the runs to which it must come. -/
theorem Inevitably.ends {Q : α → R.State → Prop} (h : Inevitably R (Gave Q) n p s) :
    ∃ ts a s', p.Ends ts a ∧ R.Serves s ts s' ∧ Q a s' := by
  induction n generalizing p s with
  | zero =>
    obtain ⟨a, rfl, ha⟩ := h
    exact ⟨[], a, s, .here _, .nil s, ha⟩
  | succ n ih =>
    rcases h with ⟨a, rfl, ha⟩ | ⟨r, next, rfl, ⟨answer, m, hans⟩, hnext⟩
    · exact ⟨[], a, s, .here _, .nil s, ha⟩
    · obtain ⟨ts, a, s', hends, hserves, ha⟩ := ih (hnext answer m hans)
      exact ⟨⟨r, answer⟩ :: ts, a, s', .turn hends, .cons hans hserves, ha⟩

/-- What a program comes to, it comes to in another world as well, if each request that it may
make comes to an answer there that the responder could have given. -/
theorem Inevitably.translate {T : Signature} {W : Responder T} {K : S.Request → Prop}
    {f : (r : S.Request) → Program T (S.Answer r)} (Sim : R.State → W.State → Prop)
    {t : W.State} {Q : α → R.State → Prop}
    (hf : ∀ r s t, K r → Sim s t →
      Inevitably W (Gave fun a t' => ∃ s', R.Answers s r a s' ∧ Sim s' t') m (f r) t)
    (h : Inevitably R (Gave Q) n p s) (hp : p.AsksOnly K) (hsim : Sim s t) :
    Inevitably W (Gave fun a t' => ∃ s', Q a s' ∧ Sim s' t') (n * m) (p.translate f) t := by
  induction n generalizing p s t with
  | zero =>
    obtain ⟨a, rfl, ha⟩ := h
    exact inevitably_done ⟨s, ha, hsim⟩
  | succ n ih =>
    rcases h with ⟨a, rfl, ha⟩ | ⟨r, next, rfl, -, hnext⟩
    · exact inevitably_done ⟨s, ha, hsim⟩
    · rw [Nat.succ_mul, Nat.add_comm]
      refine (hf r s t hp.1 hsim).bind ?_
      rintro a t' ⟨s', hans, hsim'⟩
      exact ih (hnext a s' hans) (hp.2 a) hsim'

/-! ## How long the rounds last -/

/-- The allowed rounds are not used up in the first `n` turns. -/
def Lasts : Nat → Program S α → Prop
  | 0, _ => True
  | _ + 1, done _ => True
  | n + 1, ask _ next => ∀ a, Lasts n (next a)
  | _ + 1, pending => False

theorem Lasts.mono (h : Lasts n p) (hmn : m ≤ n) : Lasts m p := by
  induction p generalizing m n with
  | done a => cases m <;> trivial
  | pending =>
    cases n with
    | zero => rw [Nat.le_zero.mp hmn]; trivial
    | succ n => exact h.elim
  | ask r next ih =>
    cases m with
    | zero => trivial
    | succ m =>
      cases n with
      | zero => omega
      | succ n => exact fun a => ih a (h a) (by omega)

theorem lasts_done (n : Nat) (a : α) : Lasts n (done a : Program S α) := by
  cases n <;> trivial

theorem lasts_ask {r : S.Request} {next : S.Answer r → Program S α} (h : ∀ a, Lasts n (next a)) :
    Lasts n (ask r next) := by
  cases n with
  | zero => trivial
  | succ n => exact fun a => (h a).mono (Nat.le_succ n)

theorem Lasts.bind {f : α → Program S β} (hp : Lasts n p) (hf : ∀ a, Lasts n (f a)) :
    Lasts n (p >>= f) := by
  show Lasts n (Program.bind p f)
  induction p generalizing n with
  | done a => exact hf a
  | pending =>
    cases n with
    | zero => trivial
    | succ n => exact hp.elim
  | ask r next ih =>
    cases n with
    | zero => trivial
    | succ n => exact fun a => ih a (hp a) fun b => (hf b).mono (by omega)

theorem Goes.lasts (h : p.Goes ts q) (hp : Lasts (ts.length + n) p) : Lasts n q := by
  induction h with
  | here p => simpa using hp
  | turn _ ih =>
    rw [List.length_cons, Nat.add_right_comm] at hp
    exact ih (hp _)

/-! ## What holds on the way -/

/-- At each request the state allows it, and the price of the state is paid from what is left.
`Q` tells what the program may end with, and how much is left then. -/
def Bears (R : Responder S) (price : R.State → Nat) (Allowed : R.State → S.Request → Prop)
    (Q : Nat → α → R.State → Prop) : Nat → Program S α → R.State → Prop
  | n, done a, s => Q n a s
  | n, ask r next, s => Allowed s r ∧ price s ≤ n ∧
    ∀ a s', R.Answers s r a s' → Bears R price Allowed Q (n - price s) (next a) s'
  | _, pending, _ => True

variable {price : R.State → Nat} {Allowed : R.State → S.Request → Prop}
  {Q : Nat → α → R.State → Prop}

theorem Bears.bind {Q' : Nat → β → R.State → Prop} {f : α → Program S β}
    (hp : Bears R price Allowed Q n p s)
    (hf : ∀ n a s, Q n a s → Bears R price Allowed Q' n (f a) s) :
    Bears R price Allowed Q' n (p >>= f) s := by
  show Bears R price Allowed Q' n (Program.bind p f) s
  induction p generalizing n s with
  | done a => exact hf n a s hp
  | pending => trivial
  | ask r next ih =>
    obtain ⟨hallowed, hprice, hnext⟩ := hp
    exact ⟨hallowed, hprice, fun a s' hans => ih a (hnext a s' hans)⟩

/-- A first part that keeps the state in order, and asks for nothing that is not allowed there or
has a price, can be passed over. -/
theorem Bears.bind_of_asksOnly {K : S.Request → Prop} {I : R.State → Prop}
    {Q' : Nat → β → R.State → Prop} {f : α → Program S β} (hp : p.AsksOnly K) (hs : I s)
    (hfree : ∀ s, I s → price s = 0) (hallowed : ∀ s r, I s → K r → Allowed s r)
    (hkeeps : ∀ s r a s', I s → K r → R.Answers s r a s' → I s')
    (hf : ∀ a s, I s → Bears R price Allowed Q' n (f a) s) :
    Bears R price Allowed Q' n (p >>= f) s := by
  show Bears R price Allowed Q' n (Program.bind p f) s
  induction p generalizing s with
  | done a => exact hf a s hs
  | pending => trivial
  | ask r next ih =>
    refine ⟨hallowed s r hs hp.1, by simp [hfree s hs], fun a s' hans => ?_⟩
    rw [hfree s hs]
    exact ih a (hp.2 a) (hkeeps s r a s' hs hp.1 hans)

/-- What a program bears, it still bears after some turns, and nothing more is left than was. -/
theorem Bears.goes (h : Bears R price Allowed Q n p s) (hgoes : p.Goes ts q)
    (hserves : R.Serves s ts s') : ∃ k ≤ n, Bears R price Allowed Q k q s' := by
  induction hgoes generalizing n s with
  | here p =>
    cases hserves
    exact ⟨n, Nat.le_refl n, h⟩
  | turn _ ih =>
    cases hserves with
    | cons hans hserves =>
      obtain ⟨k, hk, hq⟩ := ih (h.2.2 _ _ hans) hserves
      exact ⟨k, by omega, hq⟩

/-- What allowed requests keep is kept to the end. -/
theorem Bears.keeps {Kept : R.State → Prop} (h : Bears R price Allowed Q n p s)
    (hkeep : ∀ s r a s', Allowed s r → R.Answers s r a s' → Kept s → Kept s') (hs : Kept s)
    (hgoes : p.Goes ts q) (hserves : R.Serves s ts s') : Kept s' := by
  induction hgoes generalizing n s with
  | here p =>
    cases hserves
    exact hs
  | turn _ ih =>
    cases hserves with
    | cons hans hserves => exact ih (h.2.2 _ _ hans) (hkeep _ _ _ _ h.1 hans hs) hserves

end WarehouseJobs.Program
