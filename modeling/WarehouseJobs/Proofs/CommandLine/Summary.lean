-- The exit code of an export, held against what was exchanged with the server. Whoever reads only
-- the code learns from it how the exchanges went: whether anything was sent, whether the job was
-- confirmed, and whether the last answer of all reported the end of it.
import WarehouseJobs.Proofs.CommandLine.ExitCodes
import WarehouseJobs.Proofs.Http.Exports
import WarehouseJobs.Proofs.Http.Resources
import WarehouseJobs.Proofs.Programs.Runs
import WarehouseJobs.Simulation.Server

namespace WarehouseJobs

open Program

/-! ## What exchanges tell about a job -/

namespace Client

/-- The exchanges in which the server answered. -/
def answered (xs : List (HttpRequest × Reply)) : List (HttpRequest × Reply) :=
  xs.filter fun x => x.2.isOk

/-- An answer has confirmed the job. From then on it counts as submitted. -/
def Confirmed (job : JobReference) (xs : List (HttpRequest × Reply)) : Prop :=
  ∃ x ∈ xs, Shows job x.2

/-- The last answer of all came to a look at the job, which had been confirmed before, and it
reports the end of the job. -/
def PolledLast (c : Client) (job : JobReference) (failed : Bool)
    (xs : List (HttpRequest × Reply)) : Prop :=
  ∃ before request reply, answered xs = before ++ [(request, reply)] ∧ Confirmed job before ∧
    (∃ location, c.jobRequest job.project job.id location = .ok request) ∧
      ReportsEnd job failed reply

/-- An answer has confirmed the job before anybody looked at the signal. -/
def ConfirmedFirst (job : JobReference) (ts : List (Turn HttpSignature)) : Prop :=
  ∃ us vs, ts = us ++ vs ∧ Confirmed job (exchanges us) ∧ Deaf us

/-- A code that sums up the turns of an export of `job`, and whether it was to wait. -/
structure SumsUp (c : Client) (job : JobReference) (wait : Bool)
    (ts : List (Turn HttpSignature)) (code : Nat) : Prop where
  usable : code ≠ 2
  done : wait = true → code = 0 → PolledLast c job false (exchanges ts)
  failed_iff : code = 1 ↔ wait = true ∧ PolledLast c job true (exchanges ts)
  cancelled : code = 130 → ConfirmedFirst job ts
  submitted : wait = false → code = 0 → Confirmed job (exchanges ts)
  other : (∃ x ∈ exchanges ts, ReportsOther job x.2) → code ≠ 0 ∧ code ≠ 1

variable {c : Client} {project : ProjectId} {job : JobReference} {wait failed : Bool}
  {xs ys : List (HttpRequest × Reply)} {x : HttpRequest × Reply} {reply : Reply} {code : Nat}
  {ts ts' : List (Turn HttpSignature)} {said : List (Except RemoteFault JobHandle)}
  {handle : JobHandle}

/-! ### The last answer -/

theorem isOk_of_shown (h : shown reply = .ok handle) : reply.isOk = true := by
  cases reply with
  | ok answer => rfl
  | error fault => cases h

theorem answered_concat (h : x.2.isOk = true) : answered (xs ++ [x]) = answered xs ++ [x] := by
  simp [answered, h]

theorem confirmed_answered_iff : Confirmed job (answered xs) ↔ Confirmed job xs := by
  constructor
  · rintro ⟨x, hx, hshows⟩
    exact ⟨x, List.mem_of_mem_filter hx, hshows⟩
  · rintro ⟨x, hx, hshows⟩
    obtain ⟨handle, hshown, -⟩ := hshows.reads_handle
    exact ⟨x, List.mem_filter.mpr ⟨hx, isOk_of_shown hshown⟩, hshows⟩

theorem polledLast_concat {request : HttpRequest} {location : Option String}
    (hxs : Confirmed job xs) (hlook : c.jobRequest job.project job.id location = .ok request)
    (hend : ReportsEnd job failed reply) : PolledLast c job failed (xs ++ [(request, reply)]) := by
  obtain ⟨handle, hshown, -⟩ := reportsEnd_iff.mp hend
  exact ⟨_, request, reply, answered_concat (isOk_of_shown hshown),
    confirmed_answered_iff.mpr hxs, ⟨location, hlook⟩, hend⟩

theorem PolledLast.confirmed (h : PolledLast c job failed xs) : Confirmed job xs := by
  obtain ⟨before, request, reply, hsplit, ⟨x, hx, hshows⟩, -, -⟩ := h
  refine confirmed_answered_iff.mp ⟨x, ?_, hshows⟩
  rw [hsplit]
  exact List.mem_append_left _ hx

/-- The last answer reports one end of the job only. -/
theorem PolledLast.eq_of_shown {request : HttpRequest}
    (h : PolledLast c job failed (xs ++ [(request, reply)])) (hshown : shown reply = .ok handle) :
    handle.state = .ofEnd failed := by
  obtain ⟨before, request', reply', hsplit, -, -, hend⟩ := h
  rw [answered_concat (isOk_of_shown hshown)] at hsplit
  obtain ⟨-, hlast⟩ := List.append_inj' hsplit rfl
  cases hlast
  obtain ⟨reported, hreported, -, hstate⟩ := reportsEnd_iff.mp hend
  rw [hshown] at hreported
  cases hreported
  exact hstate

/-- If the job is confirmed by one answer, the last answer can report its end only if a later one
does. -/
theorem not_polledLast (hxs : ¬ Confirmed job xs) (hx : x.2.isOk = true)
    (hys : ∀ y ∈ ys, ¬ ReportsEnd job failed y.2) :
    ¬ PolledLast c job failed (xs ++ [x] ++ ys) := by
  rintro ⟨before, request, reply, hsplit, hconfirmed, -, hend⟩
  have hanswered : answered (xs ++ [x] ++ ys) = answered xs ++ [x] ++ answered ys := by
    simp [answered, hx]
  rw [hanswered] at hsplit
  rcases List.eq_nil_or_concat (answered ys) with hnone | ⟨init, last, hlast⟩
  · rw [hnone, List.append_nil] at hsplit
    obtain ⟨rfl, -⟩ := List.append_inj' hsplit rfl
    exact hxs (confirmed_answered_iff.mp hconfirmed)
  · rw [hlast, List.concat_eq_append, ← List.append_assoc] at hsplit
    obtain ⟨-, hlast'⟩ := List.append_inj' hsplit rfl
    have hmem : last ∈ answered ys := by
      rw [hlast]
      simp
    obtain rfl : last = (request, reply) := List.singleton_inj.mp hlast'
    exact hys _ (List.mem_of_mem_filter hmem) hend

/-! ### Answers after which an export goes on -/

/-- An answer that is no news of another job: a handle of the job, or a fault that passes. -/
def Harmless (job : JobReference) (answer : Except RemoteFault JobHandle) : Prop :=
  Busy answer ∨ Taken answer ∨ ∃ handle, answer = .ok handle ∧ job.sameJob handle.reference = true

theorem Harmless.not_reportsOther (h : Harmless job (shown reply)) : ¬ ReportsOther job reply := by
  intro hother
  rcases hother.reads with ⟨handle, hshown, hforeign⟩ | ⟨cause, hshown, hfatal⟩ <;>
    rw [hshown] at h
  · rcases h with hbusy | ⟨_, ⟨⟩, -⟩ | ⟨_, ⟨⟩, hsame⟩
    · exact not_busy_ok _ hbusy
    · rw [hforeign] at hsame
      cases hsame
  · rcases h with hbusy | ⟨_, ⟨⟩, htaken⟩ | ⟨_, ⟨⟩, -⟩
    · rw [busy_error_iff, hfatal] at hbusy
      cases hbusy
    · rw [hfatal] at htaken
      cases htaken

theorem none_reportsOther (h : ∀ x ∈ xs, Harmless job (shown x.2)) :
    ¬ ∃ x ∈ xs, ReportsOther job x.2 := by
  rintro ⟨x, hx, hother⟩
  exact (h x hx).not_reportsOther hother

theorem Shows.not_taken (h : Shows job reply) : ¬ Taken (shown reply) := by
  obtain ⟨handle, hshown, -⟩ := h.reads_handle
  rw [hshown]
  rintro ⟨_, ⟨⟩, -⟩

/-- While the id of a job is taken, it is not confirmed. -/
theorem not_confirmed_of_taken (hxs : ∀ x ∈ xs, Busy (shown x.2) ∨ shown x.2 ∈ said)
    (hsaid : ∀ answer ∈ said, Taken answer) : ¬ Confirmed job xs := by
  rintro ⟨x, hx, hshows⟩
  rcases hxs x hx with hbusy | hmem
  · exact hshows.not_busy hbusy
  · exact hshows.not_taken (hsaid _ hmem)

/-! ### The three ways of an export -/

/-- The code for a fault that tells neither that the job ended nor that a wait was called off. -/
def IsUnsettled (code : Nat) : Prop := code = 4 ∨ code = 5

theorem isUnsettled_of_unseen {fault : Fault} (h : Unseen fault) : IsUnsettled fault.exitCode := by
  cases fault with
  | remote staged =>
    have hstage : staged.stage = .polling := h
    exact .inl (by simp [Fault.exitCode, hstage])
  | identity expected actual => exact .inr rfl
  | _ => exact h.elim

theorem isUnsettled_of_looked {last : Except RemoteFault JobHandle} {fault : Fault}
    (h : looked .submission job last = .error fault) : IsUnsettled fault.exitCode := by
  cases last with
  | error cause =>
    cases h
    exact .inl rfl
  | ok handle =>
    cases hsame : job.sameJob handle.reference with
    | true =>
      rw [looked_of_same hsame] at h
      cases h
    | false =>
      rw [looked_of_other hsame] at h
      cases h
      exact .inr rfl

theorem sumsUp_of_unsettled (h : IsUnsettled code)
    (hlast : ¬ PolledLast c job true (exchanges ts)) : SumsUp c job wait ts code := by
  have hcode : code ≠ 0 ∧ code ≠ 1 ∧ code ≠ 2 ∧ code ≠ 130 := by
    rcases h with rfl | rfl <;> decide
  exact
    { usable := hcode.2.2.1
      done := fun _ h => absurd h hcode.1
      failed_iff := ⟨fun h => absurd h hcode.2.1, fun h => absurd h.2 hlast⟩
      cancelled := fun h => absurd h hcode.2.2.2
      submitted := fun _ h => absurd h hcode.1
      other := fun _ => ⟨hcode.1, hcode.2.1⟩ }

/-- The looks of a wait that is not over at the end of its job do not report that end. -/
theorem not_reportsEnd_of_passes {reference : JobReference}
    (h : Waiting.Passes reference (shown reply)) : ¬ ReportsEnd job failed reply := by
  intro hend
  obtain ⟨handle, hshown, -, hstate⟩ := reportsEnd_iff.mp hend
  rw [hshown] at h
  rcases h with hunfinished | hbusy
  · have hopen := (Waiting.isUnfinished_ok_iff.mp hunfinished).2
    have hterminal := JobState.isTerminal_iff.mpr ⟨failed, hstate⟩
    rw [JobHandle.isTerminal, hterminal] at hopen
    cases hopen
  · exact not_busy_ok _ hbusy

theorem harmless_of_passes {reference : JobReference} {answer : Except RemoteFault JobHandle}
    (hsame : job.sameJob reference = true) (h : Waiting.Passes reference answer) :
    Harmless job answer := by
  rcases h with hunfinished | hbusy
  · cases answer with
    | error cause => cases hunfinished
    | ok handle =>
      have hown := (Waiting.isUnfinished_ok_iff.mp hunfinished).1
      rw [JobReference.sameJob_congr hsame] at hown
      exact .inr (.inr ⟨handle, rfl, hown⟩)
  · exact .inl hbusy

theorem sumsUp_of_refused {last : Except RemoteFault JobHandle} {fault : Fault}
    (hxs : Carries (exchanges ts) (said ++ [last])) (hsaid : ∀ answer ∈ said, Taken answer)
    (hlast : looked .submission job last = .error fault) : SumsUp c job wait ts fault.exitCode := by
  refine sumsUp_of_unsettled (isUnsettled_of_looked hlast) fun hpolled => ?_
  obtain ⟨x, hx, hshows⟩ := hpolled.confirmed
  obtain ⟨handle, hshown, hsame⟩ := hshows.reads_handle
  rcases hxs.read x hx with hbusy | hmem
  · exact hshows.not_busy hbusy
  rcases List.mem_append.mp hmem with hmem | hmem
  · exact hshows.not_taken (hsaid _ hmem)
  · rw [← List.mem_singleton.mp hmem, hshown, looked_of_same hsame] at hlast
    cases hlast

/-- The exchanges of a submission that succeeds: the last answer confirms the job, and no one
before it. -/
theorem confirmed_of_carries (hxs : Carries xs (said ++ [.ok handle]))
    (hsaid : ∀ answer ∈ said, Taken answer) (hsame : job.sameJob handle.reference = true) :
    ∃ zs x, xs = zs ++ [x] ∧ ¬ Confirmed job zs ∧ Shows job x.2 ∧
      ∀ x ∈ xs, Harmless job (shown x.2) := by
  obtain ⟨zs, request, reply, rfl, hshown, hzs⟩ := hxs.last (not_busy_ok handle)
  refine ⟨zs, (request, reply), rfl, not_confirmed_of_taken hzs hsaid,
    shows_iff.mpr ⟨handle, hshown, hsame⟩, fun x hx => ?_⟩
  rcases hxs.read x hx with hbusy | hmem
  · exact .inl hbusy
  rcases List.mem_append.mp hmem with hmem | hmem
  · exact .inr (.inl (hsaid _ hmem))
  · exact .inr (.inr ⟨handle, List.mem_singleton.mp hmem, hsame⟩)

theorem sumsUp_at_once (hxs : Carries (exchanges ts) (said ++ [.ok handle]))
    (hsaid : ∀ answer ∈ said, Taken answer) (hsame : job.sameJob handle.reference = true) :
    SumsUp c job false ts 0 := by
  obtain ⟨zs, x, hsplit, -, hshows, hharmless⟩ := confirmed_of_carries hxs hsaid hsame
  exact ⟨by decide, nofun, ⟨nofun, nofun⟩, nofun, fun _ _ => ⟨x, by simp [hsplit], hshows⟩,
    fun h => absurd h (none_reportsOther hharmless)⟩

/-- The answers to the looks of a wait that saw the end of its job. -/
theorem harmless_of_seen {reference : JobReference} {looks : List (Except RemoteFault JobHandle)}
    (hsame : job.sameJob reference = true) (hys : Carries ys (looks ++ [.ok handle]))
    (hpasses : ∀ look ∈ looks, Waiting.Passes reference look)
    (hown : job.sameJob handle.reference = true) : ∀ y ∈ ys, Harmless job (shown y.2) := by
  intro y hy
  rcases hys.read y hy with hbusy | hmem
  · exact .inl hbusy
  rcases List.mem_append.mp hmem with hmem | hmem
  · exact harmless_of_passes hsame (hpasses _ hmem)
  · exact .inr (.inr ⟨handle, List.mem_singleton.mp hmem, hown⟩)

/-- A wait that saw the end of the job: the last answer reports it, and all went well before. -/
theorem sumsUp_of_seen {looks : List (Except RemoteFault JobHandle)} {finished : JobHandle}
    {args : ExportArguments} (hproject : project = job.project)
    (hxs : Carries (exchanges ts) (said ++ [.ok handle])) (hsaid : ∀ answer ∈ said, Taken answer)
    (hsame : job.sameJob handle.reference = true)
    (hys : Carries (exchanges ts') (looks ++ [.ok finished]))
    (hlook : ∀ x ∈ exchanges ts', c.look project handle.reference = .ok x.1)
    (hpasses : ∀ look ∈ looks, Waiting.Passes handle.reference look)
    (hown : job.sameJob finished.reference = true) (hterminal : finished.isTerminal = true) :
    SumsUp c job true (ts ++ ts')
      ((Command.exportTable args).leavesWith (Command.fault? (Exporter.ending finished))) := by
  obtain ⟨zs, x, hfirst, -, hshows, hharmless⟩ := confirmed_of_carries hxs hsaid hsame
  have hother : ¬ ∃ x ∈ exchanges (ts ++ ts'), ReportsOther job x.2 := by
    rw [exchanges_append]
    exact none_reportsOther
      (List.forall_mem_append.mpr ⟨hharmless, harmless_of_seen hsame hys hpasses hown⟩)
  obtain ⟨init, request, reply, hlast, hshown, -⟩ := hys.last (not_busy_ok finished)
  obtain ⟨failed, hstate⟩ := JobState.isTerminal_iff.mp hterminal
  have hsplit : exchanges (ts ++ ts') = zs ++ [x] ++ init ++ [(request, reply)] := by
    rw [exchanges_append, hfirst, hlast, List.append_assoc _ init]
  have hrequest : c.jobRequest job.project job.id handle.reference.location = .ok request := by
    rw [← hproject, ← (names_of_same hsame).2]
    exact hlook (request, reply) (by simp [hlast])
  have hpolled : PolledLast c job failed (exchanges (ts ++ ts')) := by
    rw [hsplit]
    exact polledLast_concat ⟨x, by simp, hshows⟩ hrequest
      (reportsEnd_iff.mpr ⟨finished, hshown, hown, hstate⟩)
  cases failed with
  | true =>
    rw [Exporter.ending_of_failed hstate]
    exact ⟨nofun, nofun, ⟨fun _ => ⟨rfl, hpolled⟩, fun _ => rfl⟩, nofun, nofun,
      fun h => absurd h hother⟩
  | false =>
    rw [Exporter.ending_of_done hstate]
    refine ⟨nofun, fun _ _ => hpolled, ⟨nofun, fun h => ?_⟩, nofun, nofun,
      fun h => absurd h hother⟩
    have hpolled' := h.2
    rw [hsplit] at hpolled'
    cases hstate.symm.trans (hpolled'.eq_of_shown hshown)

/-- A wait that was given up, or called off: no answer to a look reports the end of the job. -/
theorem not_polledLast_of_unseen {looks : List (Except RemoteFault JobHandle)}
    (hxs : Carries (exchanges ts) (said ++ [.ok handle])) (hsaid : ∀ answer ∈ said, Taken answer)
    (hsame : job.sameJob handle.reference = true) (hys : Carries (exchanges ts') looks)
    (hlooks : ∀ look ∈ looks, Waiting.Passes handle.reference look ∨
      ∀ found, look = .ok found → handle.reference.sameJob found.reference = false) :
    Confirmed job (exchanges ts) ∧ ¬ PolledLast c job failed (exchanges (ts ++ ts')) := by
  obtain ⟨zs, x, hfirst, hzs, hshows, -⟩ := confirmed_of_carries hxs hsaid hsame
  obtain ⟨shows, hx, -⟩ := hshows.reads_handle
  rw [exchanges_append, hfirst]
  refine ⟨⟨x, by simp, hshows⟩, not_polledLast hzs (isOk_of_shown hx) fun y hy => ?_⟩
  rcases hys.read y hy with hbusy | hmem
  · have hpasses : Waiting.Passes handle.reference (shown y.2) := .inr hbusy
    exact not_reportsEnd_of_passes hpasses
  rcases hlooks _ hmem with hpasses | hforeign
  · exact not_reportsEnd_of_passes hpasses
  · intro hend
    obtain ⟨found, hfound, hown, -⟩ := reportsEnd_iff.mp hend
    rw [← JobReference.sameJob_congr hsame, hforeign found hfound] at hown
    cases hown

theorem sumsUp_of_exported {args : ExportArguments} {result : Except Fault JobHandle}
    (hproject : project = job.project) (h : Exported c project job wait ts result) :
    SumsUp c job wait ts ((Command.exportTable args).leavesWith (Command.fault? result)) := by
  cases h with
  | refused hxs hsaid hlast => exact sumsUp_of_refused hxs hsaid hlast
  | atOnce hxs hsaid hsame => exact sumsUp_at_once hxs hsaid hsame
  | @watched ts ts' said looks handle outcome hxs hsaid hsame hdeaf hys hlook hwatched =>
    cases hwatched with
    | @ended seen finished hpasses hown hterminal =>
      rw [JobReference.sameJob_congr hsame] at hown
      exact sumsUp_of_seen hproject hxs hsaid hsame hys hlook hpasses hown hterminal
    | @gaveUp seen look fault hpasses hforeign hunseen =>
      refine sumsUp_of_unsettled (isUnsettled_of_unseen hunseen)
        (not_polledLast_of_unseen hxs hsaid hsame hys ?_).2
      exact List.forall_mem_append.mpr
        ⟨fun look h => .inl (hpasses look h), List.forall_mem_singleton.mpr (.inr hforeign)⟩
    | calledOff hpasses =>
      obtain ⟨hconfirmed, hlast⟩ :
          Confirmed job (exchanges ts) ∧ ¬ PolledLast c job true (exchanges (ts ++ ts')) :=
        not_polledLast_of_unseen hxs hsaid hsame hys fun look h => .inl (hpasses look h)
      show SumsUp c job true (ts ++ ts') 130
      exact
        { usable := by decide
          done := fun _ h => absurd h (by decide)
          failed_iff := ⟨fun h => absurd h (by decide), fun h => absurd h.2 hlast⟩
          cancelled := fun _ => ⟨ts, ts', rfl, hconfirmed, hdeaf⟩
          submitted := fun _ h => absurd h (by decide)
          other := fun _ => by decide }

/-- What is told around an export changes nothing. -/
theorem SumsUp.told {before after : List (Turn HttpSignature)} (h : SumsUp c job wait ts code)
    (hbefore : ∀ t ∈ before, t.isTold = true) (hafter : ∀ t ∈ after, t.isTold = true) :
    SumsUp c job wait (before ++ ts ++ after) code := by
  have hexchanges : exchanges (before ++ ts ++ after) = exchanges ts :=
    exchanges_amid_told hbefore hafter
  obtain ⟨usable, done, failed_iff, cancelled, submitted, other⟩ := h
  rw [← hexchanges] at done failed_iff submitted other
  refine ⟨usable, done, failed_iff, fun hcode => ?_, submitted, other⟩
  obtain ⟨us, vs, rfl, hconfirmed, hdeaf⟩ := cancelled hcode
  refine ⟨before ++ us, vs ++ after, by simp, ?_, ?_⟩
  · rwa [exchanges_append, exchanges_of_told hbefore, List.nil_append]
  · exact List.forall_mem_append.mpr ⟨fun t ht => Turn.asksSignal_of_told (hbefore t ht), hdeaf⟩

end Client

/-! ## The command -/

namespace Command

/-- Whoever is told of the looks of an export writes them down. -/
def Export.watcher : Watcher where
  onTick looks := Work.log (Export.lookEvent looks)
  aloof _ := ⟨rfl, fun _ => trivial⟩

variable {args : ExportArguments} {found : Found} {rounds : Nat} {ts : List (Turn HttpSignature)}

theorem Export.work_sumsUp {client : Client} {p : Export.Plan} {e : Exporter}
    {fault : Option Fault}
    (h : (failing (Export.work client e p args.noWait rounds)).Ends ts fault) :
    Client.exchanges ts = [] ∧ leavesWith (.exportTable args) fault = 2 ∨
      ∃ u, ⟨.locally .draw, u⟩ ∈ ts ∧
        client.SumsUp (e.asked p.project u) (!args.noWait) ts
          (leavesWith (.exportTable args) fault) := by
  obtain ⟨us, result, vs, rfl, hwork, hdone⟩ := ends_bind_iff.mp h
  obtain ⟨rfl, rfl⟩ := ends_done_iff.mp hdone
  rw [List.append_nil]
  have hrun : (client.overHttp (e.run rounds p.project p.source p.destinations (!args.noWait)
      Export.watcher.onTick)).Ends us result := hwork
  rcases Client.exported_of_run hrun with ⟨hnone, cause, rfl⟩ | ⟨u, hdrawn, hexported⟩
  · exact .inl ⟨hnone, rfl⟩
  · exact .inr ⟨u, hdrawn, Client.sumsUp_of_exported rfl hexported⟩

end Command

/-- The code of an export sums up what was exchanged with the server, whatever the settings, the
arguments and the server, if the HTTP library can get ready for the settings. Either the export is
refused with the code for that and sends nothing, or it has drawn the id of its job and `SumsUp`
accounts for the code: an export that waits leaves well only if the last answer of all came to a
look at its confirmed job and reported it done without an error result, and leaves with the code for
a failed job exactly if that answer reported an error result; it is called off only if an answer has
confirmed the job before anybody looked at the signal, and leaves well without waiting only if an
answer has confirmed the job; and with an answer about another project or id it does neither leave
well nor as if the job had failed. -/
theorem export_code_sums_up_exchanges {env : Environment} {path : String}
    {source : Settings.Source} {args : ExportArguments} {rounds : Nat}
    {builder : Client.Builder} {ts : List (Turn HttpSignature)} {result : Except Fault Nat}
    (hready : ∀ s, Settings.ofSource env path source = .ok s →
      builder s.service.timeoutSeconds = .ok ())
    (h : (Command.Export.run args (Settings.ofSource env path source) rounds builder).Ends ts
      result) :
    ∃ code, result = .ok code ∧
      (Client.exchanges ts = [] ∧ code = 2 ∨
        ∃ s plan e u, Settings.ofSource env path source = .ok s ∧
          Command.Export.plan args s = .ok plan ∧ Exporter.ofSettings s = .ok e ∧
            ⟨.locally .draw, u⟩ ∈ ts ∧
              Client.SumsUp (.ofSettings s.service) (e.asked plan.project u) (!args.noWait) ts
                code) := by
  have hloaded := Command.loaded_ofSource env path source
  have hclient : ∀ fault, ¬ (Command.exportTable args).Stranded (Settings.ofSource env path source)
      builder fault := by
    rintro fault ⟨s, hfound, -, hbuild⟩
    rw [Client.build_of_ready (hready s hfound)] at hbuild
    cases hbuild
  obtain ⟨before, us, after, fault, rfl, hattempt, rfl, htold⟩ :=
    Command.export_reports args rounds hloaded hclient ts result h
  refine ⟨_, rfl, ?_⟩
  obtain ⟨hbefore, hafter⟩ := List.forall_mem_append.mp htold
  rw [Client.exchanges_amid_told hbefore hafter]
  cases hfound : Settings.ofSource env path source with
  | error cause =>
    rw [hfound] at hattempt
    obtain ⟨rfl, rfl⟩ := ends_done_iff.mp hattempt
    exact .inl ⟨rfl, hloaded.fault cause hfound⟩
  | ok s =>
    rw [hfound] at hattempt
    simp only [Command.attempt] at hattempt
    rcases Command.Export.plan_or_fault args s with
      ⟨plan, hplan, horder⟩ | ⟨why, cause, -, horder, hcode⟩
    · obtain ⟨e, pattern, he, -⟩ :=
        Exporter.follows_of_check (Settings.jobs_check (hloaded.checked s hfound))
      rw [horder] at hattempt
      simp only [Client.build_of_ready (hready s hfound), he] at hattempt
      rcases Command.Export.work_sumsUp hattempt with hrefused | ⟨u, hdrawn, hsums⟩
      · exact .inl hrefused
      · exact .inr ⟨s, plan, e, u, rfl, hplan, he, by simp [hdrawn], hsums.told hbefore hafter⟩
    · rw [horder] at hattempt
      obtain ⟨rfl, rfl⟩ := ends_done_iff.mp hattempt
      exact .inl ⟨rfl, hcode⟩

/-! ## A job that fails -/

namespace Failing

/-- The settings name the service and a short prefix for the ids. -/
def environment : Environment :=
  [("JOBRELAY_SERVICE_BASE_URL", "http://w"), ("JOBRELAY_JOBS_EXPORT_PREFIX", "x")]

def settings : Settings.Source := .text "[service]\n"

/-- An export that waits. -/
def orders : ExportArguments where
  project := some "demo"
  table := "demo:sales.orders"
  destinations := ["gs://demo/orders.csv"]
  noWait := false

/-- The resource of the job `id` in the project of the export, with this status. -/
def resource (status id : String) : String :=
  "\x7b\"jobReference\": [\"demo\", \"" ++ id ++ "\"], \"status\": " ++ status ++ "\x7d"

/-- The service accepts the job, and at the first look it is done, with an error result. -/
def service : Simulation.ServerWorld where
  replies := [.answer 200 (resource "[\"PENDING\"]"),
    .answer 200 (resource "[\"DONE\", \x7b\"message\": \"quota\"\x7d]")]
  uuidOf _ := .zero

theorem run_fails : ((service.run (Command.Export.run orders
    (Settings.ofSource environment "jobrelay.toml" settings) 2 .ready)).1.bind (·.toOption)) =
      some 1 := by
  decide +kernel

end Failing

/-- With this service, the export leaves with the code for a failed job, and the last answer of all
was the look that reported the error result. -/
theorem failed_export_was_told_so_last : ∃ ts, (Command.Export.run Failing.orders
      (Settings.ofSource Failing.environment "jobrelay.toml" Failing.settings) 2 .ready).Ends ts
        (.ok 1) ∧
    ∃ s plan u, ∃ e : Exporter, Command.Export.plan Failing.orders s = .ok plan ∧
      ⟨.locally .draw, u⟩ ∈ ts ∧ Client.PolledLast (.ofSettings s.service)
        (e.asked plan.project u) true (Client.exchanges ts) := by
  obtain ⟨result, hrun, hcode⟩ := Option.bind_eq_some_iff.mp Failing.run_fails
  obtain rfl : result = .ok 1 := by
    cases result with
    | error fault => cases hcode
    | ok code => rw [Option.some.inj hcode]
  obtain ⟨ts, hends⟩ := ends_of_runIn hrun
  refine ⟨ts, hends, ?_⟩
  obtain ⟨code, hresult, ⟨-, rfl⟩ | ⟨s, plan, e, u, -, hplan, -, hdrawn, hsums⟩⟩ :=
    export_code_sums_up_exchanges (fun _ _ => rfl) hends
  · cases hresult
  · cases hresult
    exact ⟨s, plan, u, e, hplan, hdrawn, (hsums.failed_iff.mp rfl).2⟩

end WarehouseJobs
