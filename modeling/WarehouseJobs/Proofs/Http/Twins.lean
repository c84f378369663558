-- Two programs that show one token each, and do the same otherwise. They are told apart by the
-- header of their requests only, so whoever does not look at it cannot tell their runs apart.
import WarehouseJobs.Logging.Filter
import WarehouseJobs.Logging.Lines
import WarehouseJobs.Proofs.CommandLine.Telling
import WarehouseJobs.Proofs.Programs.Runs
import WarehouseJobs.Proofs.Programs.Together

namespace WarehouseJobs

open Program

/-- A secret that can be shown in the header of a request. -/
structure Token where
  secret : Secret
  notEmpty : secret.isEmpty = false
  presentable : secret.exposed.toList.all Client.isHeaderChar = true

/-- What stands in the header. -/
def Token.header (t : Token) : String := "Bearer " ++ t.secret.exposed

def HttpRequest.showing (r : HttpRequest) (t : Token) : HttpRequest :=
  { r with authorization := some t.header }

variable {a b : Token} {α β : Type}

/-! ## Turns -/

/-- The same turn in two runs, one with each token. -/
inductive Turn.Twins (a b : Token) : Turn HttpSignature → Turn HttpSignature → Prop
  | send (request : HttpRequest) (reply : Client.Reply) :
      Twins a b (Client.sendTurn (request.showing a) reply)
        (Client.sendTurn (request.showing b) reply)
  | locally {r : LocalRequest} (answer : r.Answer) :
      Twins a b ⟨.locally r, answer⟩ ⟨.locally r, answer⟩

/-- The lines of a turn on the standard output. -/
def Turn.printed (t : Turn HttpSignature) : List String :=
  match t.request with
  | .locally (.say line) => [line]
  | _ => []

/-- The lines of a turn on the standard error, where a filter settles which events are told. -/
def Turn.complained (filter : LogFilter) (t : Turn HttpSignature) : List String :=
  match t.request with
  | .locally (.complain line) => [line]
  | .locally (.log event) => if filter.allows event then [event.line] else []
  | _ => []

/-- Who answers a request the same, whatever it shows. -/
def Responder.IsBlind (R : Responder HttpSignature) : Prop :=
  ∀ s (request : HttpRequest) authorization (reply : Client.Reply) s',
    R.Answers s (.send { request with authorization }) reply s' ↔
      R.Answers s (.send request) reply s'

/-- The turns of two runs that are the same but for their tokens. -/
structure SameTurns (a b : Token) (ts ts' : List (Turn HttpSignature)) : Prop where
  turns : List.Forall₂ (Turn.Twins a b) ts ts'
  printed : ts.flatMap Turn.printed = ts'.flatMap Turn.printed
  complained : ∀ filter, ts.flatMap (Turn.complained filter) = ts'.flatMap (Turn.complained filter)
  served : ∀ R : Responder HttpSignature, R.IsBlind → ∀ s s',
    R.Serves s ts s' → R.Serves s ts' s'

theorem sameTurns_nil : SameTurns a b [] [] where
  turns := .nil
  printed := rfl
  complained _ := rfl
  served _ _ _ _ h := h

theorem SameTurns.cons {t t' : Turn HttpSignature} {ts ts' : List (Turn HttpSignature)}
    (ht : Turn.Twins a b t t') (h : SameTurns a b ts ts') :
    SameTurns a b (t :: ts) (t' :: ts') where
  turns := .cons ht h.turns
  printed := by
    simp only [List.flatMap_cons, h.printed]
    cases ht <;> rfl
  complained filter := by
    simp only [List.flatMap_cons, h.complained filter]
    cases ht <;> rfl
  served R hblind s s' hserves := by
    obtain ⟨m, hanswers, hrest⟩ := Responder.serves_cons_iff.mp hserves
    refine Responder.serves_cons_iff.mpr ⟨m, ?_, h.served R hblind m s' hrest⟩
    cases ht with
    | send request reply =>
      exact (hblind s request _ reply m).mpr ((hblind s request _ reply m).mp hanswers)
    | locally answer => exact hanswers

/-! ## Programs -/

namespace Http

/-- Two programs that take the same steps, whatever they are answered. The requests of the one
show `a`, those of the other one `b`. -/
inductive Twins (a b : Token) : Http α → Http α → Prop
  | done (x : α) : Twins a b (.done x) (.done x)
  | pending : Twins a b .pending .pending
  | send {request : HttpRequest} {next next' : Client.Reply → Http α} :
      (∀ reply, Twins a b (next reply) (next' reply)) →
      Twins a b (.ask (.send (request.showing a)) next) (.ask (.send (request.showing b)) next')
  | locally {r : LocalRequest} {next next' : r.Answer → Http α} :
      (∀ answer, Twins a b (next answer) (next' answer)) →
      Twins a b (.ask (.locally r) next) (.ask (.locally r) next')

theorem Twins.bind {p p' : Http α} {f f' : α → Http β} (hp : Twins a b p p')
    (hf : ∀ x, Twins a b (f x) (f' x)) : Twins a b (p >>= f) (p' >>= f') := by
  show Twins a b (Program.bind p f) (Program.bind p' f')
  induction hp with
  | done x => exact hf x
  | pending => exact .pending
  | send _ ih => exact .send ih
  | locally _ ih => exact .locally ih

/-- Nothing is sent by who only tells things. -/
theorem Tells.twins {x : α} {p : Http α} (hp : p.Tells x) : Twins a b p p := by
  induction p with
  | done y => exact .done y
  | pending => exact hp.elim
  | ask r next ih =>
    cases r with
    | send request => exact hp.elim
    | locally r => exact .locally fun answer => ih answer (hp.2 answer)

theorem twins_sleep (millis : UInt64) : Twins a b (sleep millis) (sleep millis) :=
  .locally fun _ => .locally fun _ => .done _

theorem Twins.translate {S : Signature} {f f' : (r : S.Request) → Http (S.Answer r)}
    (hf : ∀ r, Twins a b (f r) (f' r)) (p : Program S α) :
    Twins a b (p.translate f) (p.translate f') := by
  induction p with
  | done x => exact .done x
  | pending => exact .pending
  | ask r next ih => exact (hf r).bind ih

/-- However far the one has come, the other one can have come as far with the same turns. -/
theorem Twins.goes {p p' q : Http α} {ts : List (Turn HttpSignature)} (hp : Twins a b p p')
    (hgoes : p.Goes ts q) : ∃ ts' q', p'.Goes ts' q' ∧ SameTurns a b ts ts' ∧ Twins a b q q' := by
  induction hgoes generalizing p' with
  | here p => exact ⟨[], p', .here p', sameTurns_nil, hp⟩
  | turn _ ih =>
    cases hp with
    | send hnext =>
      obtain ⟨ts', q', hgoes', hsame, hq⟩ := ih (hnext _)
      exact ⟨_, q', .turn hgoes', hsame.cons (.send _ _), hq⟩
    | locally hnext =>
      obtain ⟨ts', q', hgoes', hsame, hq⟩ := ih (hnext _)
      exact ⟨_, q', .turn hgoes', hsame.cons (.locally _), hq⟩

/-- A world that answers a request the same, whatever it shows. -/
def IsBlindWorld {W : Type} (answer : W → (r : HttpStep) → r.Answer × W) : Prop :=
  ∀ w (request : HttpRequest) authorization,
    answer w (.send { request with authorization }) = answer w (.send request)

theorem Twins.runIn_eq {W : Type} {answer : W → (r : HttpStep) → r.Answer × W}
    (hblind : IsBlindWorld answer) {p p' : Http α} (hp : Twins a b p p') (w : W) :
    runIn answer p w = runIn answer p' w := by
  induction hp generalizing w with
  | done x => rfl
  | pending => rfl
  | @send request next next' _ ih =>
    have hsame : answer w (.send (request.showing a)) = answer w (.send (request.showing b)) :=
      (hblind w request (some a.header)).trans (hblind w request (some b.header)).symm
    show runIn answer (next (answer w (.send (request.showing a))).1) _ =
      runIn answer (next' (answer w (.send (request.showing b))).1) _
    rw [hsame]
    exact ih _ _
  | locally _ ih => exact ih _ _

/-- Two programs whose runs are the same but for their tokens, finished or not: they come to the
same end, and leave a world that does not look at the tokens in the same state. -/
structure Alike (a b : Token) (p p' : Http α) : Prop where
  goes : ∀ ts q, p.Goes ts q → ∃ ts' q', p'.Goes ts' q' ∧ SameTurns a b ts ts'
  ends : ∀ ts x, p.Ends ts x → ∃ ts', p'.Ends ts' x ∧ SameTurns a b ts ts'
  runs : ∀ {W : Type} (answer : W → (r : HttpStep) → r.Answer × W), IsBlindWorld answer →
    ∀ w, runIn answer p w = runIn answer p' w

theorem Twins.alike {p p' : Http α} (hp : Twins a b p p') : Alike a b p p' where
  goes ts q h := by
    obtain ⟨ts', q', hgoes, hsame, -⟩ := hp.goes h
    exact ⟨ts', q', hgoes, hsame⟩
  ends ts x h := by
    obtain ⟨ts', q', hgoes, hsame, hq⟩ := hp.goes h
    cases hq
    exact ⟨ts', hgoes, hsame⟩
  runs answer hblind w := hp.runIn_eq hblind w

end Http

/-! ## A client with a token -/

namespace Client

/-- The same client with another token. -/
def withToken (c : Client) (t : Token) : Client := { c with token := some t.secret }

theorem authorization_withToken (c : Client) (t : Token) :
    (c.withToken t).authorization = .ok (some t.header) := if_pos t.presentable

/-- A request with its token, if it can be put together at all. -/
theorem request_withToken (c : Client) (t : Token) (method : HttpMethod) (url : String)
    (field : Option (String × String)) (body : Option Json) :
    (c.withToken t).request method url field body =
      ({ c with token := none }.request method url field body).map (HttpRequest.showing · t) := by
  unfold request
  rw [authorization_withToken]
  cases place url <;> rfl

variable {read : Json → Option α} {value : α → UInt16 → Except RemoteFault β}

theorem twins_exchange (request : Except ConnectionFault HttpRequest) :
    Http.Twins a b (exchange (request.map (HttpRequest.showing · a)) read value)
      (exchange (request.map (HttpRequest.showing · b)) read value) := by
  cases request with
  | error fault => exact .done _
  | ok request =>
    refine .send fun reply => ?_
    cases reply with
    | error fault => exact .done _
    | ok answer => exact .done _

theorem twins_retrying (s : RetrySettings) {operation operation' : Http (Except RemoteFault β)}
    (h : Http.Twins a b operation operation') (left done : Nat) (delay : UInt64) :
    Http.Twins a b (retrying s operation left done delay)
      (retrying s operation' left done delay) := by
  induction left generalizing done delay with
  | zero => exact h
  | succ left ih =>
    refine h.bind fun result => ?_
    cases result with
    | ok x => exact .done _
    | error fault =>
      simp only
      split
      · exact (Http.tells_log _).twins.bind fun _ =>
          (Http.twins_sleep delay).bind fun _ => ih _ _
      · exact .done _

/-- Whatever the service is asked for, the token shows in the requests and nowhere else. -/
theorem twins_serve (c : Client) (r : WorkRequest) :
    Http.Twins a b ((c.withToken a).serve r) ((c.withToken b).serve r) := by
  have htry : ∀ {α β : Type} (read : Json → Option α)
      (value : α → UInt16 → Except RemoteFault β) event method url field body,
      Http.Twins a b
        (Http.log event >>= fun _ => (c.withToken a).withRetries
          (exchange ((c.withToken a).request method url field body) read value))
        (Http.log event >>= fun _ => (c.withToken b).withRetries
          (exchange ((c.withToken b).request method url field body) read value)) := by
    intro α β read value event method url field body
    rw [request_withToken, request_withToken]
    exact (Http.tells_log event).twins.bind fun _ =>
      twins_retrying c.retry (twins_exchange _) _ _ _
  cases r with
  | create project job => exact htry _ _ _ _ _ _ _
  | get project id location => exact htry _ _ _ _ _ _ _
  | table reference => exact htry _ _ _ _ _ _ _
  | locally r => exact .locally fun _ => .done _

theorem twins_overHttp (c : Client) (work : Work α) :
    Http.Twins a b ((c.withToken a).overHttp work) ((c.withToken b).overHttp work) :=
  Http.Twins.translate (twins_serve c) work

end Client
end WarehouseJobs
