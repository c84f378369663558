-- Programs that only tell things, and programs that tell things around the work they do. What is
-- told asks for nothing, so it cannot change what the work comes to.
import WarehouseJobs.CommandLine.Commands
import WarehouseJobs.Proofs.Http.Tries

namespace WarehouseJobs

open Program

variable {α β : Type} {a : α} {b : β} {ts : List (Turn HttpSignature)}

/-! ## Only telling -/

/-- A remark or a line, which nobody answers. -/
def LocalRequest.isTold : LocalRequest → Bool
  | .log _ | .say _ | .complain _ => true
  | _ => false

def Turn.isTold (t : Turn HttpSignature) : Bool :=
  match t.request with
  | .locally r => r.isTold
  | .send _ => false

namespace Http

/-- A program that only tells things, and gives `a`. -/
def Tells (a : α) : Http α → Prop
  | .done b => b = a
  | .ask (.locally r) next => r.isTold = true ∧ ∀ answer, Tells a (next answer)
  | .ask (.send _) _ => False
  | .pending => False

theorem Tells.bind {p : Http α} {f : α → Http β} (hp : p.Tells a) (hf : (f a).Tells b) :
    Http.Tells b (p >>= f) := by
  show Http.Tells b (Program.bind p f)
  induction p with
  | done c =>
    obtain rfl : c = a := hp
    exact hf
  | ask r next ih =>
    cases r with
    | locally r => exact ⟨hp.1, fun answer => ih answer (hp.2 answer)⟩
    | send request => exact hp.elim
  | pending => exact hp.elim

theorem Tells.ends {p : Http α} {c : α} (hp : p.Tells a) (h : p.Ends ts c) :
    c = a ∧ ∀ t ∈ ts, t.isTold = true := by
  induction p generalizing ts with
  | done d =>
    obtain ⟨rfl, rfl⟩ := ends_done_iff.mp h
    exact ⟨hp, by simp⟩
  | ask r next ih =>
    obtain ⟨answer, rest, rfl, hrest⟩ := ends_ask_iff.mp h
    cases r with
    | locally r =>
      obtain ⟨hc, htold⟩ := ih answer (hp.2 answer) hrest
      exact ⟨hc, List.forall_mem_cons.mpr ⟨hp.1, htold⟩⟩
    | send request => exact hp.elim
  | pending => exact hp.elim

theorem tells_log (event : LogEvent) : (log event).Tells () := ⟨rfl, fun _ => rfl⟩

theorem tells_say (line : String) : (say line).Tells () := ⟨rfl, fun _ => rfl⟩

theorem tells_complain (line : String) : (complain line).Tells () := ⟨rfl, fun _ => rfl⟩

theorem tells_sayAll (lines : List String) : (sayAll lines).Tells () := by
  induction lines with
  | nil => rfl
  | cons line lines ih => exact (tells_say line).bind ih

theorem tells_refuse (line : String) : (refuse line).Tells (.ok ExitCode.configuration) :=
  (tells_complain line).bind rfl

end Http

/-- What is told does not go over the wire. -/
theorem Client.exchanges_of_told (h : ∀ t ∈ ts, t.isTold = true) : Client.exchanges ts = [] := by
  refine List.filterMap_eq_nil_iff.mpr fun t ht => ?_
  have htold := h t ht
  obtain ⟨r, answer⟩ := t
  cases r with
  | send request => cases htold
  | locally r => rfl

theorem Client.exchanges_amid_told {before after : List (Turn HttpSignature)}
    (hbefore : ∀ t ∈ before, t.isTold = true) (hafter : ∀ t ∈ after, t.isTold = true) :
    Client.exchanges (before ++ ts ++ after) = Client.exchanges ts := by
  rw [Client.exchanges_append, Client.exchanges_append, Client.exchanges_of_told hbefore,
    Client.exchanges_of_told hafter, List.nil_append, List.append_nil]

/-- Nor does it take a look at the signal. -/
theorem Turn.asksSignal_of_told {t : Turn HttpSignature} (h : t.isTold = true) :
    t.request.asksSignal = false := by
  obtain ⟨r, answer⟩ := t
  cases r with
  | send request => cases h
  | locally r => cases r <;> first | rfl | cases h

/-! ## Telling around some work -/

namespace Http

/-- Whenever `p` ends it has done the work `w`, and besides told things only. What `w` gave settles
what `p` gives. -/
def Wraps (w : Http α) (settle : α → β) (p : Http β) : Prop :=
  ∀ ts b, p.Ends ts b → ∃ before us after a, ts = before ++ us ++ after ∧ w.Ends us a ∧
    b = settle a ∧ ∀ t ∈ before ++ after, t.isTold = true

variable {settle : α → β}

theorem Tells.wraps {p : Http β} (hp : p.Tells (settle a)) : Wraps (.done a) settle p := by
  intro ts b h
  obtain ⟨rfl, htold⟩ := hp.ends h
  exact ⟨ts, [], [], a, by simp, ends_done_iff.mpr ⟨rfl, rfl⟩, rfl, by simpa using htold⟩

theorem wraps_work {γ : Type} {w : Http γ} {f : γ → α} {post : γ → Http β}
    (hpost : ∀ c, (post c).Tells (settle (f c))) :
    Wraps (w >>= fun c => .done (f c)) settle (w >>= post) := by
  intro ts b h
  obtain ⟨us, c, after, rfl, hw, hafter⟩ := ends_bind_iff.mp h
  obtain ⟨rfl, htold⟩ := (hpost c).ends hafter
  refine ⟨[], us, after, f c, rfl, ?_, rfl, htold⟩
  exact ends_bind_iff.mpr ⟨us, c, [], (List.append_nil us).symm, hw, ends_done_iff.mpr ⟨rfl, rfl⟩⟩

/-- Something is told first. -/
theorem Wraps.told {γ : Type} {w : Http α} {q : Http γ} {c : γ} {p : γ → Http β} (hq : q.Tells c)
    (hp : Wraps w settle (p c)) : Wraps w settle (q >>= p) := by
  intro ts b h
  obtain ⟨vs, d, rest, rfl, hfirst, hrest⟩ := ends_bind_iff.mp h
  obtain ⟨rfl, htold⟩ := hq.ends hfirst
  obtain ⟨before, us, after, a, rfl, hw, hb, hrest⟩ := hp rest b hrest
  refine ⟨vs ++ before, us, after, a, by simp [List.append_assoc], hw, hb, ?_⟩
  rw [List.append_assoc]
  exact List.forall_mem_append.mpr ⟨htold, hrest⟩

/-- And something is told afterwards. -/
theorem Wraps.bind {γ : Type} {w : Http α} {settle' : α → γ} {p : Http β} {post : β → Http γ}
    (hp : Wraps w settle p) (hpost : ∀ a, (post (settle a)).Tells (settle' a)) :
    Wraps w settle' (p >>= post) := by
  intro ts c h
  obtain ⟨vs, b, rest, rfl, hfirst, hrest⟩ := ends_bind_iff.mp h
  obtain ⟨before, us, after, a, rfl, hw, rfl, htold⟩ := hp vs b hfirst
  obtain ⟨rfl, hlast⟩ := (hpost a).ends hrest
  refine ⟨before, us, after ++ rest, a, by simp [List.append_assoc], hw, rfl, ?_⟩
  rw [← List.append_assoc]
  exact List.forall_mem_append.mpr ⟨htold, hlast⟩

end Http
end WarehouseJobs
