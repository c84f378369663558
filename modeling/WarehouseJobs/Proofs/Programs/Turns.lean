-- A run of a program, told by its turns: what it asked, and what it was answered. The laws
-- here say how the turns of a program are made of the turns of its parts, and which programs
-- come to an end whatever they are answered.
import WarehouseJobs.Program

namespace WarehouseJobs

/-- One request, and the answer it got. -/
structure Turn (S : Signature) where
  request : S.Request
  answer : S.Answer request

namespace Program

variable {S T : Signature} {α β : Type}

/-- After the turns of a list, the first program has become the second one. -/
inductive Goes : Program S α → List (Turn S) → Program S α → Prop
  | here (p : Program S α) : Goes p [] p
  | turn {r : S.Request} {next : S.Answer r → Program S α} {a : S.Answer r}
      {ts : List (Turn S)} {q : Program S α} :
      Goes (next a) ts q → Goes (ask r next) (⟨r, a⟩ :: ts) q

/-- With these turns a program ends, and gives `a`. -/
def Ends (p : Program S α) (ts : List (Turn S)) (a : α) : Prop := p.Goes ts (done a)

/-- After these turns, a program asks this next. -/
def AsksAfter (p : Program S α) (ts : List (Turn S)) (r : S.Request) : Prop :=
  ∃ next, p.Goes ts (ask r next)

theorem Goes.trans {p q q' : Program S α} {us vs : List (Turn S)} (h : p.Goes us q)
    (h' : q.Goes vs q') : p.Goes (us ++ vs) q' := by
  induction h with
  | here p => exact h'
  | turn _ ih => exact .turn (ih h')

theorem bind_eq (p : Program S α) (f : α → Program S β) : p >>= f = bind p f := rfl

theorem asksAfter_ask {r : S.Request} {next : S.Answer r → Program S α} :
    (ask r next).AsksAfter [] r := ⟨next, .here _⟩

theorem AsksAfter.turn {r r' : S.Request} {next : S.Answer r → Program S α} {a : S.Answer r}
    {ts : List (Turn S)} (h : (next a).AsksAfter ts r') :
    (ask r next).AsksAfter (⟨r, a⟩ :: ts) r' := h.imp fun _ => .turn

theorem AsksAfter.bind {p : Program S α} {ts : List (Turn S)} {r : S.Request}
    {f : α → Program S β} (h : p.AsksAfter ts r) : (p >>= f).AsksAfter ts r := by
  obtain ⟨next, h⟩ := h
  generalize hq : ask r next = q at h
  induction h with
  | here p =>
    subst hq
    exact asksAfter_ask
  | turn _ ih => exact (ih hq).turn

/-! ## The turns of the parts -/

@[simp] theorem ends_done_iff {a b : α} {ts : List (Turn S)} :
    (done a : Program S α).Ends ts b ↔ ts = [] ∧ a = b := by
  constructor
  · intro h
    cases h
    exact ⟨rfl, rfl⟩
  · rintro ⟨rfl, rfl⟩
    exact .here _

theorem ends_ask_iff {r : S.Request} {next : S.Answer r → Program S α} {ts : List (Turn S)}
    {b : α} :
    (ask r next).Ends ts b ↔ ∃ a rest, ts = ⟨r, a⟩ :: rest ∧ (next a).Ends rest b := by
  constructor
  · intro h
    cases h with
    | turn h => exact ⟨_, _, rfl, h⟩
  · rintro ⟨a, rest, rfl, h⟩
    exact .turn h

@[simp] theorem not_ends_pending {ts : List (Turn S)} {b : α} :
    ¬ (pending : Program S α).Ends ts b := nofun

theorem ends_bind_iff {p : Program S α} {f : α → Program S β} {ts : List (Turn S)} {b : β} :
    (bind p f).Ends ts b ↔ ∃ us a vs, ts = us ++ vs ∧ p.Ends us a ∧ (f a).Ends vs b := by
  induction p generalizing ts with
  | done a =>
    simp only [bind, ends_done_iff]
    constructor
    · intro h
      exact ⟨[], a, ts, rfl, ⟨rfl, rfl⟩, h⟩
    · rintro ⟨_, _, _, rfl, ⟨rfl, rfl⟩, h⟩
      exact h
  | pending => simp [bind]
  | ask r next ih =>
    simp only [bind, ends_ask_iff, ih]
    constructor
    · rintro ⟨answer, _, rfl, us, a, vs, rfl, hp, hf⟩
      exact ⟨⟨r, answer⟩ :: us, a, vs, rfl, ⟨answer, us, rfl, hp⟩, hf⟩
    · rintro ⟨_, a, vs, rfl, ⟨answer, us, rfl, hp⟩, hf⟩
      exact ⟨answer, us ++ vs, rfl, us, a, vs, rfl, hp, hf⟩

/-- Each turn of the first list is played by the program that stands for its request, and the
second list has the turns of all these programs, one after the other. -/
inductive Relayed (f : (r : S.Request) → Program T (S.Answer r)) :
    List (Turn S) → List (Turn T) → Prop
  | nil : Relayed f [] []
  | cons {t : Turn S} {us : List (Turn S)} {vs ws : List (Turn T)} :
      (f t.request).Ends vs t.answer → Relayed f us ws → Relayed f (t :: us) (vs ++ ws)

theorem Relayed.split {f : (r : S.Request) → Program T (S.Answer r)} {us vs : List (Turn S)}
    {ts : List (Turn T)} (h : Relayed f (us ++ vs) ts) :
    ∃ xs ys, ts = xs ++ ys ∧ Relayed f us xs ∧ Relayed f vs ys := by
  induction us generalizing ts with
  | nil => exact ⟨[], ts, rfl, .nil, h⟩
  | cons t us ih =>
    cases h with
    | cons hends h =>
      obtain ⟨xs, ys, rfl, hus, hvs⟩ := ih h
      exact ⟨_, ys, (List.append_assoc ..).symm, .cons hends hus, hvs⟩

theorem ends_translate_iff {f : (r : S.Request) → Program T (S.Answer r)} {p : Program S α}
    {ts : List (Turn T)} {a : α} :
    (translate f p).Ends ts a ↔ ∃ us, p.Ends us a ∧ Relayed f us ts := by
  induction p generalizing ts with
  | done b =>
    constructor
    · intro h
      obtain ⟨rfl, rfl⟩ := ends_done_iff.mp h
      exact ⟨[], ends_done_iff.mpr ⟨rfl, rfl⟩, .nil⟩
    · rintro ⟨us, h, hr⟩
      obtain ⟨rfl, rfl⟩ := ends_done_iff.mp h
      cases hr
      exact ends_done_iff.mpr ⟨rfl, rfl⟩
  | pending => simp [translate]
  | ask r next ih =>
    simp only [translate, ends_bind_iff, ih]
    constructor
    · rintro ⟨vs, answer, _, rfl, hf, us, hp, hr⟩
      exact ⟨⟨r, answer⟩ :: us, .turn hp, .cons hf hr⟩
    · rintro ⟨_, h, hr⟩
      obtain ⟨answer, us, rfl, hp⟩ := ends_ask_iff.mp h
      cases hr with
      | cons hf hr => exact ⟨_, answer, _, rfl, hf, us, hp, hr⟩

/-! ## What programs can give -/

/-- Whatever a program gives has a property. -/
def Yields (P : α → Prop) : Program S α → Prop
  | done a => P a
  | ask _ next => ∀ a, Yields P (next a)
  | pending => True

theorem yields_any (p : Program S α) : p.Yields fun _ => True := by
  induction p with
  | done a => trivial
  | ask r next ih => exact ih
  | pending => trivial

theorem Yields.bind {P : α → Prop} {Q : β → Prop} {p : Program S α} {f : α → Program S β}
    (hp : p.Yields P) (hf : ∀ a, P a → (f a).Yields Q) : (p >>= f).Yields Q := by
  show (Program.bind p f).Yields Q
  induction p with
  | done a => exact hf a hp
  | ask r next ih => exact fun a => ih a (hp a)
  | pending => trivial

/-- What the first part gives does not matter. -/
theorem Yields.bind_any {Q : β → Prop} {p : Program S α} {f : α → Program S β}
    (hf : ∀ a, (f a).Yields Q) : (p >>= f).Yields Q := (yields_any p).bind fun a _ => hf a

theorem Yields.of_ends {P : α → Prop} {p : Program S α} {ts : List (Turn S)} {a : α}
    (hp : p.Yields P) (h : p.Ends ts a) : P a := by
  induction p generalizing ts with
  | done b =>
    obtain ⟨-, rfl⟩ := ends_done_iff.mp h
    exact hp
  | ask r next ih =>
    obtain ⟨answer, rest, -, h⟩ := ends_ask_iff.mp h
    exact ih answer (hp answer) h
  | pending => exact absurd h not_ends_pending

/-! ## Programs that end -/

/-- A program ends after at most so many requests, whatever it is answered. -/
def EndsWithin : Nat → Program S α → Prop
  | _, done _ => True
  | 0, ask .. => False
  | n + 1, ask _ next => ∀ a, EndsWithin n (next a)
  | _, pending => False

theorem EndsWithin.mono {m n : Nat} {p : Program S α} (h : EndsWithin m p) (hmn : m ≤ n) :
    EndsWithin n p := by
  induction p generalizing m n with
  | done a => simp [EndsWithin]
  | pending => simp [EndsWithin] at h
  | ask r next ih =>
    cases m with
    | zero => simp [EndsWithin] at h
    | succ m =>
      obtain ⟨n, rfl⟩ : ∃ k, n = k + 1 := ⟨n - 1, by omega⟩
      intro a
      exact ih a (h a) (by omega)

theorem EndsWithin.bind {m n : Nat} {p : Program S α} {f : α → Program S β}
    (hp : EndsWithin m p) (hf : ∀ a, EndsWithin n (f a)) : EndsWithin (m + n) (p.bind f) := by
  induction p generalizing m with
  | done a => exact (hf a).mono (by omega)
  | pending => simp [EndsWithin] at hp
  | ask r next ih =>
    cases m with
    | zero => simp [EndsWithin] at hp
    | succ m =>
      rw [Nat.succ_add]
      intro a
      exact ih a (hp a)

theorem EndsWithin.translate {m n : Nat} {p : Program S α}
    {f : (r : S.Request) → Program T (S.Answer r)} (hp : EndsWithin m p)
    (hf : ∀ r, EndsWithin n (f r)) : EndsWithin (m * n) (p.translate f) := by
  induction p generalizing m with
  | done a => simp [Program.translate, EndsWithin]
  | pending => simp [EndsWithin] at hp
  | ask r next ih =>
    cases m with
    | zero => simp [EndsWithin] at hp
    | succ m =>
      rw [Nat.succ_mul, Nat.add_comm]
      exact (hf r).bind fun a => ih a (hp a)

/-- Each turn uses up one of the requests that are left. -/
theorem Goes.endsWithin {p q : Program S α} {ts : List (Turn S)} {n : Nat} (h : p.Goes ts q)
    (hp : EndsWithin n p) : ts.length ≤ n ∧ EndsWithin (n - ts.length) q := by
  induction h generalizing n with
  | here p => exact ⟨Nat.zero_le _, hp⟩
  | turn _ ih =>
    cases n with
    | zero => simp [EndsWithin] at hp
    | succ n =>
      obtain ⟨hle, hq⟩ := ih (hp _)
      simp only [List.length_cons]
      exact ⟨by omega, by rwa [Nat.add_sub_add_right]⟩

end Program
end WarehouseJobs
