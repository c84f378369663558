-- What a program may ask, whatever it is answered; and how the turns of a program that is made
-- of two parts fall to them, and its next request.
import WarehouseJobs.Proofs.Programs.Turns

namespace WarehouseJobs.Program

variable {S : Signature} {α β : Type} {K K' : S.Request → Prop} {p q : Program S α}
  {ts us us' vs vs' : List (Turn S)} {r : S.Request}

/-- All that a program may ever ask is of this kind. -/
def AsksOnly (K : S.Request → Prop) : Program S α → Prop
  | done _ => True
  | ask r next => K r ∧ ∀ answer, AsksOnly K (next answer)
  | pending => True

theorem AsksOnly.mono (h : p.AsksOnly K) (hK : ∀ r, K r → K' r) : p.AsksOnly K' := by
  induction p with
  | done a => trivial
  | ask r next ih => exact ⟨hK r h.1, fun answer => ih answer (h.2 answer)⟩
  | pending => trivial

theorem AsksOnly.and (h : p.AsksOnly K) (h' : p.AsksOnly K') :
    p.AsksOnly fun r => K r ∧ K' r := by
  induction p with
  | done a => trivial
  | ask r next ih => exact ⟨⟨h.1, h'.1⟩, fun answer => ih answer (h.2 answer) (h'.2 answer)⟩
  | pending => trivial

/-- The second part has to keep to this only after what the first part can give. -/
theorem AsksOnly.bind_yields {P : α → Prop} {f : α → Program S β} (hp : p.AsksOnly K)
    (hyields : p.Yields P) (hf : ∀ a, P a → (f a).AsksOnly K) : (p >>= f).AsksOnly K := by
  show (Program.bind p f).AsksOnly K
  induction p with
  | done a => exact hf a hyields
  | ask r next ih => exact ⟨hp.1, fun answer => ih answer (hp.2 answer) (hyields answer)⟩
  | pending => trivial

theorem AsksOnly.bind {f : α → Program S β} (hp : p.AsksOnly K) (hf : ∀ a, (f a).AsksOnly K) :
    (p >>= f).AsksOnly K := hp.bind_yields (yields_any p) fun a _ => hf a

theorem AsksOnly.goes (h : p.AsksOnly K) (hgoes : p.Goes ts q) :
    (∀ t ∈ ts, K t.request) ∧ q.AsksOnly K := by
  induction hgoes with
  | here p => exact ⟨by simp, h⟩
  | turn _ ih =>
    obtain ⟨hts, hq⟩ := ih (h.2 _)
    exact ⟨List.forall_mem_cons.mpr ⟨h.1, hts⟩, hq⟩

theorem AsksOnly.asksAfter (h : p.AsksOnly K) (hask : p.AsksAfter ts r) : K r := by
  obtain ⟨next, hgoes⟩ := hask
  exact (h.goes hgoes).2.1

/-! ## Programs of two parts -/

/-- A program can end in one way only within given turns. -/
theorem Ends.unique {a b : α} (h : p.Ends us a) (h' : p.Ends us' b) (heq : us ++ vs = us' ++ vs') :
    us = us' ∧ a = b := by
  induction p generalizing us us' with
  | done c =>
    obtain ⟨rfl, rfl⟩ := ends_done_iff.mp h
    obtain ⟨rfl, rfl⟩ := ends_done_iff.mp h'
    exact ⟨rfl, rfl⟩
  | pending => exact absurd h not_ends_pending
  | ask r next ih =>
    obtain ⟨answer, rest, rfl, hrest⟩ := ends_ask_iff.mp h
    obtain ⟨answer', rest', rfl, hrest'⟩ := ends_ask_iff.mp h'
    obtain ⟨hturn, hrests⟩ := List.cons.inj heq
    cases hturn
    obtain ⟨rfl, rfl⟩ := ih answer hrest hrest' hrests
    exact ⟨rfl, rfl⟩

/-- A program that has ended asks for nothing more. -/
theorem Ends.not_asksAfter {a : α} (h : p.Ends us a) : ¬ p.AsksAfter (us ++ vs) r := by
  rintro ⟨next, hgoes⟩
  induction p generalizing us with
  | done b =>
    generalize us ++ vs = ts at hgoes
    cases hgoes
  | pending => exact absurd h not_ends_pending
  | ask r next ih =>
    obtain ⟨answer, rest, rfl, hrest⟩ := ends_ask_iff.mp h
    cases hgoes with
    | turn hgoes => exact ih answer hrest hgoes

/-- A program of two parts is still at its first part, or that one has ended. -/
theorem goes_of_bind {f : α → Program S β} {q : Program S β} (h : (p >>= f).Goes ts q) :
    (∃ part, p.Goes ts part) ∨ ∃ us a vs, ts = us ++ vs ∧ p.Ends us a ∧ (f a).Goes vs q := by
  change (Program.bind p f).Goes ts q at h
  induction p generalizing ts with
  | done a => exact .inr ⟨[], a, ts, rfl, ends_done_iff.mpr ⟨rfl, rfl⟩, h⟩
  | pending =>
    cases h
    exact .inl ⟨_, .here _⟩
  | ask r next ih =>
    cases h with
    | here => exact .inl ⟨_, .here _⟩
    | turn h =>
      rcases ih _ h with ⟨part, hpart⟩ | ⟨us, a, vs, rfl, hends, hgoes⟩
      · exact .inl ⟨part, .turn hpart⟩
      · exact .inr ⟨_ :: us, a, vs, rfl, .turn hends, hgoes⟩

/-- What a program of two parts asks next, one of its parts asks. -/
theorem asksAfter_of_bind {f : α → Program S β} (h : (p >>= f).AsksAfter ts r) :
    p.AsksAfter ts r ∨ ∃ us a vs, ts = us ++ vs ∧ p.Ends us a ∧ (f a).AsksAfter vs r := by
  change (Program.bind p f).AsksAfter ts r at h
  induction p generalizing ts with
  | done a => exact .inr ⟨[], a, ts, rfl, ends_done_iff.mpr ⟨rfl, rfl⟩, h⟩
  | pending =>
    obtain ⟨next, hgoes⟩ := h
    cases hgoes
  | ask r' next ih =>
    obtain ⟨rest, hgoes⟩ := h
    cases hgoes with
    | here => exact .inl asksAfter_ask
    | turn hgoes =>
      rcases ih _ ⟨rest, hgoes⟩ with hask | ⟨us, a, vs, rfl, hends, hask⟩
      · exact .inl hask.turn
      · exact .inr ⟨_ :: us, a, vs, rfl, .turn hends, hask⟩

/-- Once the first part has ended, the second one asks. -/
theorem Ends.asksAfter_bind {f : α → Program S β} {a : α} (hp : p.Ends us a)
    (h : (f a).AsksAfter vs r) : (p >>= f).AsksAfter (us ++ vs) r := by
  show (Program.bind p f).AsksAfter (us ++ vs) r
  induction p generalizing us with
  | done b =>
    obtain ⟨rfl, rfl⟩ := ends_done_iff.mp hp
    exact h
  | pending => exact absurd hp not_ends_pending
  | ask r' next ih =>
    obtain ⟨answer, rest, rfl, hrest⟩ := ends_ask_iff.mp hp
    exact (ih answer hrest).turn

/-- Once the first part has ended, all further turns are of the second one. -/
theorem goes_of_ends_bind {f : α → Program S β} {a : α} {q : Program S β} (hp : p.Ends us a)
    (h : (p >>= f).Goes (us ++ vs) q) : (f a).Goes vs q := by
  change (Program.bind p f).Goes (us ++ vs) q at h
  induction p generalizing us with
  | done b =>
    obtain ⟨rfl, rfl⟩ := ends_done_iff.mp hp
    exact h
  | pending => exact absurd hp not_ends_pending
  | ask r next ih =>
    obtain ⟨answer, rest, rfl, hrest⟩ := ends_ask_iff.mp hp
    cases h with
    | turn h => exact ih answer hrest h

/-! ## Programs in another world -/

variable {T : Signature}

end WarehouseJobs.Program
