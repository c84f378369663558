-- One submission over the wire. It sends its create first, perhaps many times, and then
-- perhaps its look-up, and how it ends is told by what the last replies to these two mean.
import WarehouseJobs.Proofs.Http.Tries
import WarehouseJobs.Proofs.Submission.Courses

namespace WarehouseJobs.Client

open Program Submission

/-! ## The two requests of a submission -/

/-- The request that creates a job under its own project. -/
def creation (c : Client) (job : JobDescription) : Except ConnectionFault HttpRequest :=
  c.request .post (c.jobsUrl job.reference.project) none
    (some (Wire.Job.ofDescription job).toJson)

/-- The request that looks up a job. -/
def lookup (c : Client) (reference : JobReference) : Except ConnectionFault HttpRequest :=
  c.request .get (c.jobUrl reference.project reference.id)
    (reference.location.map fun l => ("location", l)) none

theorem create_eq (c : Client) (job : JobDescription) :
    c.create job.reference.project job = (do
      Http.log (createdEvent (c.jobsUrl job.reference.project) job)
      c.withRetries (exchange (c.creation job) Wire.Job.ofJson? Wire.Job.handle)) := rfl

theorem get_eq (c : Client) (reference : JobReference) :
    c.get reference.project reference.id reference.location = (do
      Http.log (jobEvent (c.jobUrl reference.project reference.id) reference.location)
      c.withRetries (exchange (c.lookup reference) Wire.Job.ofJson? Wire.Job.handle)) := rfl

theorem request_eq_ok {c : Client} {method : HttpMethod} {url : String}
    {field : Option (String × String)} {body : Option Json} {request : HttpRequest}
    (h : c.request method url field body = .ok request) :
    request.method = method ∧ request.body = body := by
  unfold Client.request at h
  split at h
  · cases h
  · cases h
  · cases h
    exact ⟨rfl, rfl⟩

/-! ## The turns of a request -/

variable {c : Client} {job : JobDescription} {creation lookup : HttpRequest}
  {us : List (Turn WorkSignature)} {ts : List (Turn HttpSignature)}
  {answer : Except RemoteFault JobHandle} {result : Except Fault SubmitOutcome}

theorem tried_of_create (hc : c.creation job = .ok creation)
    (h : (c.create job.reference.project job).Ends ts answer) :
    Tried creation shown c.retry.maxRetries.toNat (exchanges ts) answer := by
  rw [create_eq, hc] at h
  exact tried_of_logged h

theorem tried_of_get (hl : c.lookup job.reference = .ok lookup)
    (h : (c.get job.reference.project job.reference.id job.reference.location).Ends ts answer) :
    Tried lookup shown c.retry.maxRetries.toNat (exchanges ts) answer := by
  rw [get_eq, hl] at h
  exact tried_of_logged h

/-! ## The turns of a submission -/

theorem relayed_create (hc : c.creation job = .ok creation)
    (h : Relayed c.serve (createTurn job.reference.project job answer :: us) ts) :
    ∃ xs rest, exchanges ts = xs ++ exchanges rest ∧
      Tried creation shown c.retry.maxRetries.toNat xs answer ∧ Relayed c.serve us rest := by
  cases h with
  | @cons _ _ vs ws hends hrest =>
    exact ⟨exchanges vs, ws, exchanges_append vs ws, tried_of_create hc hends, hrest⟩

theorem relayed_lookup (hl : c.lookup job.reference = .ok lookup)
    (h : Relayed c.serve (lookupTurn job.reference.project job answer :: us) ts) :
    ∃ xs rest, exchanges ts = xs ++ exchanges rest ∧
      Tried lookup shown c.retry.maxRetries.toNat xs answer ∧ Relayed c.serve us rest := by
  cases h with
  | @cons _ _ vs ws hends hrest =>
    exact ⟨exchanges vs, ws, exchanges_append vs ws, tried_of_get hl hends, hrest⟩

/-- What has nothing to do with the service is passed on as it is. -/
theorem relayed_locally {r : LocalRequest} {a : r.Answer}
    (h : Relayed c.serve ((⟨.locally r, a⟩ : Turn WorkSignature) :: us) ts) :
    ∃ rest, ts = (⟨.locally r, a⟩ : Turn HttpSignature) :: rest ∧ Relayed c.serve us rest := by
  cases h with
  | @cons _ _ vs ws hends hrest =>
    obtain ⟨_, _, rfl, hdone⟩ := ends_ask_iff.mp hends
    obtain ⟨rfl, rfl⟩ := ends_done_iff.mp hdone
    exact ⟨ws, rfl, hrest⟩

theorem relayed_log {event : LogEvent} (h : Relayed c.serve (logTurn event :: us) ts) :
    ∃ rest, exchanges ts = exchanges rest ∧ Relayed c.serve us rest := by
  obtain ⟨rest, rfl, hrest⟩ := relayed_locally h
  exact ⟨rest, rfl, hrest⟩

/-- Remarks go over no wire. -/
theorem exchanges_of_relayed_logs {events : List LogEvent}
    (h : Relayed c.serve (events.map logTurn) ts) : exchanges ts = [] := by
  induction events generalizing ts with
  | nil =>
    cases h
    rfl
  | cons event events ih =>
    obtain ⟨rest, hrest, h⟩ := relayed_log h
    rw [hrest, ih h]

/-- The exchanges of a submission, and how it ends. Either its create is all it sends, or the
create meets a job of the same id and the look-up follows. -/
inductive Wired (job : JobDescription) (creation lookup : HttpRequest) (retries : Nat) :
    List (HttpRequest × Reply) → Except Fault SubmitOutcome → Prop
  | single {xs : List (HttpRequest × Reply)} {answer : Except RemoteFault JobHandle} :
      Tried creation shown retries xs answer →
      (∀ cause : RemoteFault, answer = .error cause → cause.classify ≠ .alreadyExists) →
      Wired job creation lookup retries xs
        ((looked .submission job.reference answer).map .created)
  | double {xs ys : List (HttpRequest × Reply)} {cause : RemoteFault}
      {answer : Except RemoteFault JobHandle} : Tried creation shown retries xs (.error cause) →
      cause.classify = .alreadyExists → Tried lookup shown retries ys answer →
      Wired job creation lookup retries (xs ++ ys)
        ((looked .submission job.reference answer).map .duplicate)

theorem wired_of_relayed (hc : c.creation job = .ok creation)
    (hl : c.lookup job.reference = .ok lookup)
    (hcourse : Course job.reference.project job us result) (h : Relayed c.serve us ts) :
    Wired job creation lookup c.retry.maxRetries.toNat (exchanges ts) result := by
  rcases hcourse.asked with ⟨answer, events, rfl, hne, rfl⟩ | ⟨cause, event, answer, rfl, hex, rfl⟩
  · obtain ⟨xs, rest, hxs, htried, h⟩ := relayed_create hc h
    rw [hxs, exchanges_of_relayed_logs h, List.append_nil]
    exact .single htried hne
  · obtain ⟨xs, rest, hxs, htried, h⟩ := relayed_create hc h
    obtain ⟨rest', hlog, h⟩ := relayed_log h
    obtain ⟨ys, rest'', hys, htried', h⟩ := relayed_lookup hl h
    cases h
    rw [hxs, hlog, hys, exchanges_nil, List.append_nil]
    exact .double htried hex htried'

/-- What a submission of a job that has an id sends, and how it ends. -/
theorem wired_of_ends (hid : job.reference.id.text.isEmpty = false)
    (hc : c.creation job = .ok creation) (hl : c.lookup job.reference = .ok lookup)
    (h : (c.overHttp (submitClassified job.reference.project job)).Ends ts result) :
    Wired job creation lookup c.retry.maxRetries.toNat (exchanges ts) result := by
  unfold overHttp at h
  obtain ⟨us, hends, hrelayed⟩ := ends_translate_iff.mp h
  exact wired_of_relayed hc hl (course_of_ends hid hends) hrelayed

theorem submission_endsWithin (c : Client) (hid : job.reference.id.text.isEmpty = false) :
    (c.overHttp (submitClassified job.reference.project job)).EndsWithin
      (3 * (4 * c.retry.maxRetries.toNat + 2)) :=
  (submitClassified_endsWithin hid).translate c.serve_endsWithin

/-! ## What a submission sends -/

namespace Wired

variable {retries : Nat} {xs : List (HttpRequest × Reply)}

/-- The create comes first. -/
theorem first (h : Wired job creation lookup retries xs result) :
    ∃ reply rest, xs = (creation, reply) :: rest := by
  cases h with
  | single htried _ => exact htried.first
  | double htried _ _ =>
    obtain ⟨reply, rest, rfl⟩ := htried.first
    exact ⟨reply, _, List.cons_append⟩

theorem request_eq (h : Wired job creation lookup retries xs result) :
    ∀ x ∈ xs, x.1 = creation ∨ x.1 = lookup := by
  cases h with
  | single htried _ => exact fun x hx => .inl (htried.request_eq x hx)
  | double htried _ htried' =>
    intro x hx
    rcases List.mem_append.mp hx with hx | hx
    · exact .inl (htried.request_eq x hx)
    · exact .inr (htried'.request_eq x hx)

end Wired
end WarehouseJobs.Client
