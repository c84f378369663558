-- Submissions over a network that loses answers. A submitter whose create was done, but whose
-- answer was lost, meets its own job when it tries again, and takes it for its own all the same.
import WarehouseJobs.Proofs.Http.Replies
import WarehouseJobs.Proofs.Http.Submitters
import WarehouseJobs.Proofs.Programs.Keepers
import WarehouseJobs.Proofs.Wire.Bodies

namespace WarehouseJobs.Client

open Program Submission Crew

/-! ## Servers that keep jobs apart -/

/-- A request to create a job of the identity of `reference`. Its body tells. -/
def Creates (reference : JobReference) (request : HttpRequest) : Prop :=
  request.method = .post ∧
    Wire.named? request.body = some (reference.project.text, reference.id.text)

/-- A server that handles each request about the job of `reference` at once, although the
answer may be lost. The first create makes the job, and those that follow are told that it is
there. `LooksUp` says which requests ask for the job. -/
structure Registers (H : Keeper HttpSignature) (reference : JobReference)
    (LooksUp : HttpRequest → Prop) : Prop where
  willing : H.Willing
  post_new : ∀ {s request reply s'}, Creates reference request → ¬ H.Holds s reference →
    H.Answers s (.send request) reply s' →
    (Shows reference reply ∨ Lost reply) ∧ H.OneMore s s' reference
  post_again : ∀ {s request reply s'}, Creates reference request → H.Holds s reference →
    H.Answers s (.send request) reply s' → (Conflict reply ∨ Lost reply) ∧ H.SameJobs s s'
  get_held : ∀ {s request reply s'}, LooksUp request → H.Holds s reference →
    H.Answers s (.send request) reply s' →
    (Shows reference reply ∨ Lost reply) ∧ H.SameJobs s s'
  locally : ∀ {s r answer s'}, H.Answers s (.locally r) answer s' → H.SameJobs s s'

/-- Among the replies to requests of a method, never more than `limit` in a row are lost. -/
def LosesAtMost (limit : Nat) (method : HttpMethod) (xs : List (HttpRequest × Reply)) : Prop :=
  ∀ block, block <:+: xs.filter (fun x => x.1.method = method) → (∀ x ∈ block, Lost x.2) →
    block.length ≤ limit

/-! ## One submitter -/

section Submitter

variable {job : JobDescription} {creation lookup request : HttpRequest} {limit : Nat}
  {xs ys : List (HttpRequest × Reply)} {answer : Except RemoteFault JobHandle}
  {result : Except Fault SubmitOutcome}

theorem creation_method {c : Client} (h : c.creation job = .ok creation) :
    creation.method = .post ∧ creation.body = some (Wire.Job.ofDescription job).toJson :=
  request_eq_ok h

theorem lookup_method {c : Client} {reference : JobReference}
    (h : c.lookup reference = .ok lookup) : lookup.method = .get := (request_eq_ok h).1

theorem lookup_ne_creation {c : Client} {reference : JobReference}
    (hl : c.lookup reference = .ok lookup) (hc : c.creation job = .ok creation) :
    lookup ≠ creation := by
  rintro rfl
  have hpost := (creation_method hc).1
  rw [lookup_method hl] at hpost
  cases hpost

theorem creates_of_creation {c : Client} (h : c.creation job = .ok creation) :
    Creates job.reference creation := by
  obtain ⟨hmethod, hbody⟩ := creation_method h
  exact ⟨hmethod, by rw [hbody, Wire.named?_ofDescription]⟩

/-- If each reply is a good one or lost, but not all of more than `limit` are lost, the tries
end with a good one. -/
theorem Tried.settled {Good : Reply → Prop} (h : Tried request shown limit xs answer)
    (hgood : ∀ reply, Good reply → ¬ Busy (shown reply))
    (hfair : ∀ reply, (request, reply) ∈ xs → Good reply ∨ Lost reply)
    (hloss : (∀ x ∈ xs, Lost x.2) → xs.length ≤ limit) :
    ∃ reply, (request, reply) ∈ xs ∧ answer = shown reply ∧ Good reply := by
  obtain ⟨lost, reply, rfl, rfl, hall, hlen⟩ := h.split
  have hbusy : ∀ r, Busy (shown r) → (request, r) ∈ (lost ++ [reply]).map (request, ·) →
      Lost r := fun r hr hmem => (hfair r hmem).resolve_left fun hg => hgood r hg hr
  have hmem : (request, reply) ∈ (lost ++ [reply]).map (request, ·) := by simp
  refine ⟨reply, hmem, rfl, (hfair reply hmem).resolve_right fun hlast => ?_⟩
  -- Otherwise all tries were used up, and all replies were lost.
  have hevery : ∀ x ∈ (lost ++ [reply]).map (request, ·), Lost x.2 := by
    intro x hx
    obtain ⟨r, hr, rfl⟩ := List.mem_map.mp hx
    rcases List.mem_append.mp hr with hr | hr
    · exact hbusy r (hall r hr) hx
    · rw [List.mem_singleton.mp hr]
      exact hlast
  have hle := hloss hevery
  rw [List.length_map, List.length_append, hlen hlast.reads_busy] at hle
  simp at hle

theorem LosesAtMost.length_le {method : HttpMethod} (before after : List (HttpRequest × Reply))
    (h : LosesAtMost limit method (before ++ xs ++ after)) (hm : ∀ x ∈ xs, x.1.method = method)
    (hlost : ∀ x ∈ xs, Lost x.2) : xs.length ≤ limit := by
  refine h xs ?_ hlost
  have hxs : xs.filter (fun x => x.1.method = method) = xs :=
    List.filter_eq_self.mpr fun x hx => by simpa using hm x hx
  rw [List.filter_append, List.filter_append, hxs]
  exact ⟨_, _, rfl⟩

/-- What the replies of a server that keeps jobs apart can be to a submitter. -/
structure Fair (reference : JobReference) (creation lookup : HttpRequest)
    (xs : List (HttpRequest × Reply)) : Prop where
  create : ∀ reply, (creation, reply) ∈ xs →
    (Shows reference reply ∨ Conflict reply) ∨ Lost reply
  look : ∀ reply, (lookup, reply) ∈ xs → Shows reference reply ∨ Lost reply

/-- A submitter that loses few replies finds its job in the end. That it created the job, it
says only if a reply to a create showed the job. -/
theorem Wired.succeeds (h : Wired job creation lookup limit xs result)
    (hfair : Fair job.reference creation lookup xs) (hpost : creation.method = .post)
    (hget : lookup.method = .get) (hp : LosesAtMost limit .post xs)
    (hg : LosesAtMost limit .get xs) : ∃ outcome : SubmitOutcome, result = .ok outcome ∧
      job.reference.sameJob outcome.handle.reference = true ∧
      (outcome.isDuplicate = false → ∃ reply, (creation, reply) ∈ xs ∧
        Shows job.reference reply) := by
  cases h with
  | @single xs answer htried hne =>
    have hmethod : ∀ x ∈ xs, x.1.method = .post := fun x hx => by
      rw [htried.request_eq x hx, hpost]
    obtain ⟨reply, hmem, rfl, hgood⟩ := htried.settled (fun r hr =>
      hr.elim Shows.not_busy Conflict.not_busy) hfair.create
      (LosesAtMost.length_le [] [] (by simpa using hp) hmethod)
    rcases hgood with hshows | hconflict
    · obtain ⟨handle, hread, same⟩ := hshows.reads_handle
      rw [hread, looked_of_same same]
      exact ⟨.created handle, rfl, same, fun _ => ⟨reply, hmem, hshows⟩⟩
    · obtain ⟨fault, hread, hstatus⟩ : ∃ fault : RemoteFault, shown reply = .error fault ∧
        fault.status = some 409 := hconflict.reads_taken
      exact absurd (RemoteFault.classify_of_conflict hstatus) (hne fault hread)
  | @double xs ys cause answer htried _ htried' =>
    have hmethod : ∀ x ∈ ys, x.1.method = .get := fun x hx => by
      rw [htried'.request_eq x hx, hget]
    obtain ⟨reply, hmem, rfl, hshows⟩ := htried'.settled (fun r hr => hr.not_busy)
      (fun r hr => hfair.look r (List.mem_append_right _ hr))
      (LosesAtMost.length_le xs [] (by simpa using hg) hmethod)
    obtain ⟨handle, hread, same⟩ := hshows.reads_handle
    rw [hread, looked_of_same same]
    exact ⟨.duplicate handle, rfl, same, nofun⟩

end Submitter

/-! ## Turns with the server -/

def IsLocal : Turn HttpSignature → Prop
  | ⟨.send _, _⟩ => False
  | ⟨.locally _, _⟩ => True

theorem exchanges_of_local {ts : List (Turn HttpSignature)} (h : ∀ t ∈ ts, IsLocal t) :
    exchanges ts = [] := by
  induction ts with
  | nil => rfl
  | cons t ts ih =>
    obtain ⟨r, answer⟩ := t
    cases r with
    | send request => exact (h _ List.mem_cons_self).elim
    | locally r => exact ih fun t ht => h t (List.mem_cons_of_mem _ ht)

/-- What submitters of one job ask. -/
def Asks (reference : JobReference) (LooksUp : HttpRequest → Prop) : HttpStep → Prop
  | .send request => Creates reference request ∨ LooksUp request
  | .locally _ => True

/-- A turn with a server that has the job. -/
def Known (reference : JobReference) (LooksUp : HttpRequest → Prop) :
    Turn HttpSignature → Prop
  | ⟨.send request, reply⟩ =>
    (Creates reference request → Conflict reply ∨ Lost reply) ∧
      (LooksUp request → Shows reference reply ∨ Lost reply)
  | ⟨.locally _, _⟩ => True

variable {H : Keeper HttpSignature} {reference : JobReference} {LooksUp : HttpRequest → Prop}

theorem Registers.known (hr : Registers H reference LooksUp) {s s' : H.State}
    {t : Turn HttpSignature} (ha : Asks reference LooksUp t.request) (hs : H.Holds s reference)
    (h : H.Answers s t.request t.answer s') : Known reference LooksUp t ∧ H.SameJobs s s' := by
  obtain ⟨r, answer⟩ := t
  cases r with
  | send request =>
    have hknown : Known reference LooksUp ⟨.send request, answer⟩ :=
      ⟨fun hc => (hr.post_again hc hs h).1, fun hl => (hr.get_held hl hs h).1⟩
    rcases ha with hc | hl
    · exact ⟨hknown, (hr.post_again hc hs h).2⟩
    · exact ⟨hknown, (hr.get_held hl hs h).2⟩
  | locally r => exact ⟨trivial, hr.locally h⟩

theorem Registers.same_of_local (hr : Registers H reference LooksUp) {s s' : H.State}
    {ts : List (Turn HttpSignature)} (h : H.Serves s ts s') (hts : ∀ t ∈ ts, IsLocal t) :
    H.SameJobs s s' := by
  refine Keeper.serves_same h hts fun hlocal hans => ?_
  rename_i t
  obtain ⟨r, answer⟩ := t
  cases r with
  | send request => exact hlocal.elim
  | locally r => exact hr.locally hans

/-! ## Many submitters -/

variable {n : Nat} {ts : List (Fin n × Turn HttpSignature)}

/-- If anything is sent at all, something is sent first. -/
theorem exists_first_send {ts : List (Fin n × Turn HttpSignature)}
    (h : exchanges (ts.map Prod.snd) ≠ []) : ∃ us i request reply vs,
      ts = us ++ (i, sendTurn request reply) :: vs ∧ ∀ t ∈ us.map Prod.snd, IsLocal t := by
  induction ts with
  | nil => exact absurd rfl h
  | cons x ts ih =>
    obtain ⟨i, r, answer⟩ := x
    cases r with
    | send request => exact ⟨[], i, request, answer, ts, rfl, by simp⟩
    | locally r =>
      obtain ⟨us, j, request, reply, vs, rfl, hus⟩ := ih h
      exact ⟨_ :: us, j, request, reply, vs, rfl, List.forall_mem_cons.mpr ⟨trivial, hus⟩⟩

section FirstSend

variable {us vs : List (Fin n × Turn HttpSignature)} {i i₀ : Fin n} {request : HttpRequest}
  {reply : Reply}

theorem exchanges_of_first_self (hus : ∀ t ∈ us.map Prod.snd, IsLocal t) :
    exchanges (turnsOf i₀ (us ++ (i₀, sendTurn request reply) :: vs)) =
      (request, reply) :: exchanges (turnsOf i₀ vs) := by
  rw [turnsOf_append, exchanges_append, exchanges_of_local (forall_turns_iff.mp hus i₀),
    turnsOf_cons_self, exchanges_send, List.nil_append]

theorem exchanges_of_first_ne (hus : ∀ t ∈ us.map Prod.snd, IsLocal t) (hi : i ≠ i₀) :
    exchanges (turnsOf i (us ++ (i₀, sendTurn request reply) :: vs)) =
      exchanges (turnsOf i vs) := by
  rw [turnsOf_append, exchanges_append, exchanges_of_local (forall_turns_iff.mp hus i),
    turnsOf_cons_ne (Ne.symm hi), List.nil_append]

end FirstSend

/-- What the replies can be to a submitter whose job is there already. -/
structure Late (reference : JobReference) (creation lookup : HttpRequest)
    (xs : List (HttpRequest × Reply)) : Prop where
  create : ∀ reply, (creation, reply) ∈ xs → Conflict reply ∨ Lost reply
  look : ∀ reply, (lookup, reply) ∈ xs → Shows reference reply ∨ Lost reply

theorem Late.fair {creation lookup : HttpRequest} {xs : List (HttpRequest × Reply)}
    (h : Late reference creation lookup xs) : Fair reference creation lookup xs where
  create reply hmem := (h.create reply hmem).imp_left .inr
  look := h.look

/-- The one who made the job is not late, but meets nothing else than others do. -/
theorem Late.fair_cons {creation lookup : HttpRequest} {reply : Reply}
    {xs : List (HttpRequest × Reply)} (h : Late reference creation lookup xs)
    (hne : lookup ≠ creation) (hreply : Shows reference reply ∨ Lost reply) :
    Fair reference creation lookup ((creation, reply) :: xs) := by
  constructor
  · intro r hr
    rcases List.mem_cons.mp hr with heq | hr
    · cases heq
      exact hreply.imp_left .inl
    · exact h.fair.create r hr
  · intro r hr
    rcases List.mem_cons.mp hr with heq | hr
    · exact absurd (Prod.mk.inj heq).1 hne
    · exact h.look r hr

theorem late_of_known {creation lookup : HttpRequest} {ts : List (Turn HttpSignature)}
    (hc : Creates reference creation) (hl : LooksUp lookup)
    (hk : ∀ t ∈ ts, Known reference LooksUp t) :
    Late reference creation lookup (exchanges ts) where
  create _ hmem := (hk _ (mem_exchanges.mp hmem)).1 hc
  look _ hmem := (hk _ (mem_exchanges.mp hmem)).2 hl

/-! ## The race -/

/-- Clients that can send both requests about the job, and try again equally often. -/
structure Ready (clients : Fin n → Client) (job : JobDescription) (limit : Nat) : Prop where
  retries : ∀ i, (clients i).retry.maxRetries.toNat = limit
  creation : ∀ i, ∃ request, (clients i).creation job = .ok request
  lookup : ∀ i, ∃ request, (clients i).lookup job.reference = .ok request

/-- A request by which one of the clients asks for the job. -/
def LooksUpBy (clients : Fin n → Client) (reference : JobReference) (request : HttpRequest) :
    Prop := ∃ i, (clients i).lookup reference = .ok request

/-- Submitters of one job under its own project who have not begun yet, each with a client. -/
def submitters (H : Keeper HttpSignature) (clients : Fin n → Client) (job : JobDescription)
    (s : H.State) : Crew H.toResponder n (Except Fault SubmitOutcome) :=
  ⟨fun i => (clients i).overHttp (submitClassified job.reference.project job), s⟩

section Race

variable {clients : Fin n → Client} {job : JobDescription} {limit : Nat}
  {creations lookups : Fin n → HttpRequest} {results : Fin n → Except Fault SubmitOutcome}

theorem asks_of_wired (hc : ∀ i, (clients i).creation job = .ok (creations i))
    (hl : ∀ i, (clients i).lookup job.reference = .ok (lookups i))
    (h : ∀ i, Wired job (creations i) (lookups i) limit (exchanges (turnsOf i ts)) (results i)) :
    ∀ t ∈ ts.map Prod.snd, Asks job.reference (LooksUpBy clients job.reference) t.request := by
  refine forall_turns_iff.mpr fun i t ht => ?_
  obtain ⟨r, answer⟩ := t
  cases r with
  | locally r => trivial
  | send request =>
    rcases (h i).request_eq _ (mem_exchanges.mpr ht) with heq | heq
    · obtain rfl : request = creations i := heq
      exact .inl (creates_of_creation (hc i))
    · obtain rfl : request = lookups i := heq
      exact .inr ⟨i, hl i⟩

theorem something_sent
    (h : ∀ i, Wired job (creations i) (lookups i) limit (exchanges (turnsOf i ts)) (results i))
    (hn : 0 < n) : exchanges (ts.map Prod.snd) ≠ [] := by
  obtain ⟨reply, rest, hfirst⟩ := (h ⟨0, hn⟩).first
  have hmem : (creations ⟨0, hn⟩, reply) ∈ exchanges (turnsOf ⟨0, hn⟩ ts) := by
    rw [hfirst]
    exact List.mem_cons_self
  rw [mem_exchanges, mem_turnsOf] at hmem
  exact List.ne_nil_of_mem (mem_exchanges.mpr (List.mem_map.mpr ⟨_, hmem, rfl⟩))

/-- If there is no job at first, the first create of all makes it, and everybody else comes
too late. -/
theorem late_from_absent (hc : ∀ i, (clients i).creation job = .ok (creations i))
    (hl : ∀ i, (clients i).lookup job.reference = .ok (lookups i))
    (hserver : Registers H job.reference (LooksUpBy clients job.reference))
    (h : ∀ i, Wired job (creations i) (lookups i) limit (exchanges (turnsOf i ts)) (results i))
    (hn : 0 < n) {s s' : H.State} (hserves : H.Serves s (ts.map Prod.snd) s')
    (hs : ¬ H.Holds s job.reference) :
    H.OneMore s s' job.reference ∧ ∃ i₀,
      Fair job.reference (creations i₀) (lookups i₀) (exchanges (turnsOf i₀ ts)) ∧
      ∀ i, i ≠ i₀ → Late job.reference (creations i) (lookups i) (exchanges (turnsOf i ts)) := by
  have hasks := asks_of_wired hc hl h
  obtain ⟨us, i₀, request, reply, vs, rfl, hus⟩ := exists_first_send (something_sent h hn)
  -- What is sent first of all is the create of the one who sends it.
  obtain rfl : request = creations i₀ := by
    obtain ⟨_, _, hfirst⟩ := (h i₀).first
    rw [exchanges_of_first_self hus] at hfirst
    exact (Prod.mk.inj (List.cons.inj hfirst).1).1
  rw [List.map_append] at hserves hasks
  obtain ⟨m, hlocal, hserves⟩ := Responder.serves_append.mp hserves
  cases hserves with
  | cons hans hrest =>
    have hsame := hserver.same_of_local hlocal hus
    obtain ⟨hreply, hmore⟩ := hserver.post_new (creates_of_creation (hc i₀))
      (mt (hsame.holds_iff _).mp hs) hans
    obtain ⟨hknown, hsame'⟩ := Keeper.serves_known hserver.known hrest hmore.holds
      fun t ht => hasks t (List.mem_append_right _ (List.mem_cons_of_mem _ ht))
    have hlate : ∀ i, Late job.reference (creations i) (lookups i) (exchanges (turnsOf i vs)) :=
      fun i => late_of_known (creates_of_creation (hc i)) ⟨i, hl i⟩
        (forall_turns_iff.mp hknown i)
    refine ⟨hsame.oneMore (hmore.trans hsame'), i₀, ?_, fun i hi => ?_⟩
    · rw [exchanges_of_first_self hus]
      exact (hlate i₀).fair_cons (lookup_ne_creation (hl i₀) (hc i₀)) hreply
    · rw [exchanges_of_first_ne hus hi]
      exact hlate i

/-- If the job is there at first, everybody comes too late. -/
theorem late_from_present (hc : ∀ i, (clients i).creation job = .ok (creations i))
    (hl : ∀ i, (clients i).lookup job.reference = .ok (lookups i))
    (hserver : Registers H job.reference (LooksUpBy clients job.reference))
    (h : ∀ i, Wired job (creations i) (lookups i) limit (exchanges (turnsOf i ts)) (results i))
    {s s' : H.State} (hserves : H.Serves s (ts.map Prod.snd) s')
    (hs : H.Holds s job.reference) : H.SameJobs s s' ∧
      ∀ i, Late job.reference (creations i) (lookups i) (exchanges (turnsOf i ts)) := by
  obtain ⟨hknown, hsame⟩ := Keeper.serves_known hserver.known hserves hs (asks_of_wired hc hl h)
  exact ⟨hsame, fun i => late_of_known (creates_of_creation (hc i)) ⟨i, hl i⟩
    (forall_turns_iff.mp hknown i)⟩

/-- In the end there is one job. All but one submitter come too late. -/
theorem one_job_and_late (hc : ∀ i, (clients i).creation job = .ok (creations i))
    (hl : ∀ i, (clients i).lookup job.reference = .ok (lookups i))
    (hserver : Registers H job.reference (LooksUpBy clients job.reference))
    (h : ∀ i, Wired job (creations i) (lookups i) limit (exchanges (turnsOf i ts)) (results i))
    (hn : 0 < n) {s s' : H.State} (hserves : H.Serves s (ts.map Prod.snd) s')
    (hs : H.count s job.reference ≤ 1) : H.count s' job.reference = 1 ∧
      (∀ i, Fair job.reference (creations i) (lookups i) (exchanges (turnsOf i ts))) ∧
      ∃ i₀, ∀ i, i ≠ i₀ →
        Late job.reference (creations i) (lookups i) (exchanges (turnsOf i ts)) := by
  have hcount := Keeper.count_pos_iff (K := H) (s := s) (r := job.reference)
  by_cases hheld : H.Holds s job.reference
  · obtain ⟨hsame, hlate⟩ := late_from_present hc hl hserver h hserves hheld
    have hpos := hcount.mpr hheld
    have heq := hsame.count_eq job.reference
    exact ⟨by omega, fun i => (hlate i).fair, ⟨0, hn⟩, fun i _ => hlate i⟩
  · obtain ⟨hmore, i₀, hfair, hlate⟩ := late_from_absent hc hl hserver h hn hserves hheld
    have hzero := mt hcount.mp hheld
    have heq := hmore.count_eq
    refine ⟨by omega, fun i => ?_, i₀, hlate⟩
    by_cases hi : i = i₀
    · exact hi ▸ hfair
    · exact (hlate i hi).fair

/-- Submissions of one job all succeed over a network that loses answers, whatever the order of
their requests, as long as nobody loses more answers in a row than tries can make up for. All
creates say the same, the job exists once in the end, and at most one submitter says that it
created the job. -/
theorem lossy_submissions_make_one_job (hid : job.reference.id.text.isEmpty = false)
    (hready : Ready clients job limit)
    (hserver : Registers H job.reference (LooksUpBy clients job.reference)) (hn : 0 < n)
    (s : H.State) (hs : H.count s job.reference ≤ 1) :
    (∀ ts c', (submitters H clients job s).Steps ts c' →
      ts.length ≤ n * (3 * (4 * limit + 2))) ∧
    ∀ ts c', (submitters H clients job s).Steps ts c' → c'.Resting →
      (∀ i, LosesAtMost limit .post (exchanges (turnsOf i ts)) ∧
        LosesAtMost limit .get (exchanges (turnsOf i ts))) →
      ∃ outcomes : Fin n → SubmitOutcome,
        (∀ i, c'.programs i = .done (.ok (outcomes i)) ∧
          (outcomes i).handle.reference.project = job.reference.project ∧
          (outcomes i).handle.reference.id = job.reference.id) ∧
        (∀ i request reply, (i, sendTurn request reply) ∈ ts → request.method = .post →
          request.body = some (Wire.Job.ofDescription job).toJson ∧
          Creates job.reference request) ∧
        H.count c'.state job.reference = 1 ∧
        ∀ i j, (outcomes i).isDuplicate = false → (outcomes j).isDuplicate = false → i = j := by
  obtain ⟨hretries, hcreation, hlookup⟩ := hready
  choose creations hc using hcreation
  choose lookups hl using hlookup
  have hends : ∀ i, ((submitters H clients job s).programs i).EndsWithin
      (3 * (4 * limit + 2)) := fun i => hretries i ▸ submission_endsWithin (clients i) hid
  refine ⟨fun ts c' h => h.length_le hends, fun ts c' h hrest hloss => ?_⟩
  obtain ⟨results, hresults⟩ := h.all_end hends hserver.willing hrest
  have hwired : ∀ i, Wired job (creations i) (lookups i) limit (exchanges (turnsOf i ts))
      (results i) := fun i => hretries i ▸ wired_of_ends hid (hc i) (hl i) (hresults i).2
  obtain ⟨hone, hfair, i₀, hlate⟩ := one_job_and_late hc hl hserver hwired hn h.serves hs
  choose outcomes houtcome hsame hcreated using fun i =>
    (hwired i).succeeds (hfair i) (creation_method (hc i)).1 (lookup_method (hl i)) (hloss i).1
      (hloss i).2
  have hfirst : ∀ i, (outcomes i).isDuplicate = false → i = i₀ := by
    intro i hi
    by_contra hne
    obtain ⟨reply, hmem, hshows⟩ := hcreated i hi
    rcases (hlate i hne).create reply hmem with hconflict | hlost
    · exact hshows.not_conflict hconflict
    · exact hshows.not_lost hlost
  refine ⟨outcomes, fun i => ⟨?_, names_of_same (hsame i)⟩, fun i request reply hmem hpost => ?_,
    hone, fun i j hi hj => (hfirst i hi).trans (hfirst j hj).symm⟩
  · rw [(hresults i).1, houtcome i]
  · rcases (hwired i).request_eq _ (mem_exchanges.mpr (mem_turnsOf.mpr hmem)) with heq | heq
    · obtain rfl : request = creations i := heq
      exact ⟨(creation_method (hc i)).2, creates_of_creation (hc i)⟩
    · obtain rfl : request = lookups i := heq
      rw [lookup_method (hl i)] at hpost
      cases hpost

end Race

/-! ### A server and its clients -/

/-- A server with room for one job, whose replies may be lost at any time. -/
def oneRoom (reference : JobReference) : Keeper HttpSignature where
  State := Bool
  Answers held r answer held' :=
    match r, answer with
    | .send request, reply =>
      match request.method with
      | .post => held' = true ∧
          (Lost reply ∨ if held then Conflict reply else Shows reference reply)
      | .get => held' = held ∧ (Lost reply ∨ held = true ∧ Shows reference reply)
    | .locally _, _ => held' = held
  jobs held := if held then [reference] else []

theorem oneRoom_holds_iff {reference : JobReference} {held : Bool} :
    (oneRoom reference).Holds held reference ↔ held = true := by
  cases held with
  | true => simp [Keeper.Holds, oneRoom, JobReference.sameJob_refl]
  | false => simp [Keeper.Holds, oneRoom]

theorem oneRoom_registers {reference : JobReference} {LooksUp : HttpRequest → Prop}
    (hget : ∀ request, LooksUp request → request.method = .get) :
    Registers (oneRoom reference) reference LooksUp where
  willing := by
    intro held r
    cases r with
    | locally r => exact ⟨r.quiet, held, rfl⟩
    | send request =>
      refine ⟨.error .interrupted, (match request.method with | .post => true | .get => held), ?_⟩
      simp only [oneRoom]
      cases request.method with
      | get => exact ⟨rfl, .inl (.broken _)⟩
      | post => exact ⟨rfl, .inl (.broken _)⟩
  post_new := by
    rintro held request reply held' ⟨hpost, -⟩ hheld h
    obtain rfl : held = false := eq_false_of_ne_true (mt oneRoom_holds_iff.mpr hheld)
    simp only [oneRoom, hpost] at h
    obtain ⟨rfl, h⟩ := h
    refine ⟨h.symm.imp_left (by simp), reference, JobReference.sameJob_refl _, List.Perm.refl _⟩
  post_again := by
    rintro held request reply held' ⟨hpost, -⟩ hheld h
    obtain rfl : held = true := oneRoom_holds_iff.mp hheld
    simp only [oneRoom, hpost] at h
    obtain ⟨rfl, h⟩ := h
    exact ⟨h.symm.imp_left (by simp), .refl _⟩
  get_held := by
    intro held request reply held' hl hheld h
    obtain rfl : held = true := oneRoom_holds_iff.mp hheld
    simp only [oneRoom, hget request hl] at h
    obtain ⟨rfl, h⟩ := h
    exact ⟨h.symm.imp_left And.right, .refl _⟩
  locally := by
    intro held r answer held' h
    obtain rfl : held' = held := h
    exact .refl _

/-- A client that tries each request up to twice more. -/
def patient : Client where
  base := "http://127.0.0.1:9"
  token := none
  timeoutSeconds := 30
  retry := { maxRetries := 2 }

theorem patient_looksUp {request : HttpRequest}
    (h : LooksUpBy (fun _ : Fin 3 => patient) nightly.reference request) :
    request.method = .get := by
  obtain ⟨_, hl⟩ := h
  exact lookup_method hl

theorem patient_ready : Ready (fun _ : Fin 3 => patient) nightly 2 where
  retries _ := rfl
  creation _ := ⟨_, rfl⟩
  lookup _ := ⟨_, rfl⟩

theorem three_lossy_submitters_make_one_job :
    nightly.reference.id.text.isEmpty = false ∧
    Ready (fun _ : Fin 3 => patient) nightly 2 ∧
    Registers (oneRoom nightly.reference) nightly.reference
      (LooksUpBy (fun _ : Fin 3 => patient) nightly.reference) ∧
    (oneRoom nightly.reference).count false nightly.reference ≤ 1 ∧
    ∀ ts c', (submitters (oneRoom nightly.reference) (fun _ : Fin 3 => patient) nightly
        false).Steps ts c' → c'.Resting →
      (∀ i, LosesAtMost 2 .post (exchanges (turnsOf i ts)) ∧
        LosesAtMost 2 .get (exchanges (turnsOf i ts))) →
      (oneRoom nightly.reference).count c'.state nightly.reference = 1 := by
  have hserver : Registers (oneRoom nightly.reference) nightly.reference
      (LooksUpBy (fun _ : Fin 3 => patient) nightly.reference) :=
    oneRoom_registers fun _ => patient_looksUp
  have hcount : (oneRoom nightly.reference).count false nightly.reference ≤ 1 := by decide
  refine ⟨by decide, patient_ready, hserver, hcount, fun ts c' h hrest hloss => ?_⟩
  obtain ⟨_, _, _, hone, _⟩ :=
    (lossy_submissions_make_one_job (by decide) patient_ready hserver (by decide) false hcount).2
      ts c' h hrest hloss
  exact hone

end WarehouseJobs.Client
