-- Where the token of the settings shows: in the header of the requests, and nowhere else. Two runs
-- of one command with two tokens ask, print and complain the same, and leave with the same code.
import WarehouseJobs.CommandLine.Launch
import WarehouseJobs.Proofs.Http.Twins
import WarehouseJobs.Settings.Checks
import WarehouseJobs.Settings.Inspected

namespace WarehouseJobs

open Program

variable {a b : Token}

/-- The same settings with another token. -/
def Settings.withToken (s : Settings) (t : Token) : Settings :=
  { s with service := { s.service with accessToken := some t.secret } }

theorem Client.ofSettings_withToken (s : Settings) (t : Token) :
    Client.ofSettings (s.withToken t).service = (Client.ofSettings s.service).withToken t := rfl

/-- The token has no say in whether there is a client. -/
theorem Client.build_withToken (builder : Client.Builder) (s : Settings) (t : Token) :
    Client.build builder (s.withToken t).service =
      (Client.build builder s.service).map (Client.withToken · t) := by
  unfold Client.build
  rw [Client.ofSettings_withToken, show (s.withToken t).service.timeoutSeconds =
    s.service.timeoutSeconds from rfl]
  cases builder s.service.timeoutSeconds <;> rfl

/-! ## Commands -/

namespace Command

theorem Export.twins_carryOut (client : Client) (e : Exporter) (p : Export.Plan) (noWait : Bool)
    (rounds : Nat) : Http.Twins a b (Export.carryOut (client.withToken a) e p noWait rounds)
      (Export.carryOut (client.withToken b) e p noWait rounds) := by
  refine (Http.tells_say _).twins.bind fun _ => ?_
  refine (Client.twins_overHttp client _).bind fun result => ?_
  cases result with
  | ok handle => exact (Http.tells_say _).twins.bind fun _ => .done _
  | error fault =>
    exact (Http.tells_log _).twins.bind fun _ =>
      (Http.tells_complain _).twins.bind fun _ => .done _

theorem Export.twins_run (args : ExportArguments) (s : Settings) (rounds : Nat)
    (builder : Client.Builder) :
    Http.Twins a b (Export.run args (.ok (s.withToken a)) rounds builder)
      (Export.run args (.ok (s.withToken b)) rounds builder) := by
  refine (Http.tells_log _).twins.bind fun _ => ?_
  have hplan : ∀ t : Token, Export.plan args (s.withToken t) = Export.plan args s := fun _ => rfl
  have hexporter : ∀ t : Token, Exporter.ofSettings (s.withToken t) = Exporter.ofSettings s :=
    fun _ => rfl
  simp only [hplan, hexporter, Client.build_withToken]
  cases Export.plan args s with
  | error why => exact (Http.tells_refuse why).twins
  | ok p =>
    cases Client.build builder s.service with
    | error fault => exact .done _
    | ok client =>
      cases Exporter.ofSettings s with
      | error fault => exact .done _
      | ok e => exact Export.twins_carryOut client e p args.noWait rounds

theorem Status.twins_run (args : StatusArguments) (s : Settings) (builder : Client.Builder) :
    Http.Twins a b (Status.run args (.ok (s.withToken a)) builder)
      (Status.run args (.ok (s.withToken b)) builder) := by
  have hreference : ∀ t : Token, Status.reference args (s.withToken t) =
      Status.reference args s := fun _ => rfl
  simp only [Status.run, hreference, Client.build_withToken]
  cases Status.reference args s with
  | error why => exact (Http.tells_refuse why).twins
  | ok reference =>
    cases Client.build builder s.service with
    | error fault => exact .done _
    | ok client =>
      refine (Client.twins_overHttp client _).bind fun result => ?_
      cases result with
      | ok handle => exact (Http.tells_sayAll _).twins.bind fun _ => .done _
      | error fault =>
        exact (Http.tells_log _).twins.bind fun _ =>
          (Http.tells_complain _).twins.bind fun _ => .done _

theorem Describe.twins_run (args : TableArguments) (s : Settings) (builder : Client.Builder) :
    Http.Twins a b (Describe.run args (.ok (s.withToken a)) builder)
      (Describe.run args (.ok (s.withToken b)) builder) := by
  simp only [Describe.run, Client.build_withToken]
  cases TableReference.ofText args.table with
  | error fault => exact (Http.tells_refuse _).twins
  | ok reference =>
    cases Client.build builder s.service with
    | error fault => exact .done _
    | ok client =>
      refine (Client.twins_overHttp client _).bind fun result => ?_
      cases result with
      | ok table => exact (Http.tells_sayAll _).twins.bind fun _ => .done _
      | error fault =>
        simp only
        split
        · exact (Http.tells_say _).twins.bind fun _ => .done _
        · exact (Http.tells_complain _).twins.bind fun _ => .done _

/-- The summary says of every token that it is set. -/
theorem Validate.summary_withToken (s : Settings) (t : Token) :
    Validate.summary (s.withToken t) = Validate.summary (s.withToken a) := by
  have hset : ∀ t : Token, Validate.tokenState (some t.secret) = "set" := fun t => by
    rw [Validate.tokenState, t.notEmpty]
    rfl
  simp only [Validate.summary, Settings.withToken, hset]

theorem Validate.twins_run (path : String) (s : Settings) :
    Http.Twins a b (Validate.run path (.ok (s.withToken a)))
      (Validate.run path (.ok (s.withToken b))) := by
  refine (Http.tells_log _).twins.bind fun _ => (Http.tells_sayAll _).twins.bind fun _ => ?_
  simp only [Validate.summary_withToken (a := a) s b]
  exact (Http.tells_sayAll _).twins.bind fun _ => .done _

theorem twins_run (c : Command) (path : String) (s : Settings) (rounds : Nat)
    (builder : Client.Builder) :
    Http.Twins a b (c.run path (.ok (s.withToken a)) rounds builder)
      (c.run path (.ok (s.withToken b)) rounds builder) := by
  cases c with
  | exportTable args => exact Export.twins_run args s rounds builder
  | showStatus args => exact Status.twins_run args s builder
  | describeTable args => exact Describe.twins_run args s builder
  | validateSettings => exact Validate.twins_run path s

end Command

/-! ## The program -/

theorem Launch.twins_start (planned : Except Fault LogPlan) (i : Invocation) (s : Settings)
    (rounds : Nat) (builder : Client.Builder) :
    Http.Twins a b (Launch.start planned i (.ok (s.withToken a)) rounds builder)
      (Launch.start planned i (.ok (s.withToken b)) rounds builder) := by
  cases planned with
  | error fault => exact (Http.tells_complain _).twins.bind fun _ => .done _
  | ok plan =>
    refine (Http.tells_log _).twins.bind fun _ => (Http.tells_log _).twins.bind fun _ =>
      (Command.twins_run i.command i.settingsPath s rounds builder).bind fun result => ?_
    cases result with
    | ok code => exact .done _
    | error fault =>
      exact (Http.tells_log _).twins.bind fun _ =>
        (Http.tells_complain _).twins.bind fun _ => .done _

/-- Two settings that nobody can tell apart but by the headers of the requests: in none of the
ways that settings are looked at, and in no run. -/
structure SameButForToken (a b : Token) (s s' : Settings) : Prop where
  check : s.check = s'.check
  inspected : s.inspected = s'.inspected
  planned : ∀ env i make, Launch.logPlan env i (.ok s) make = Launch.logPlan env i (.ok s') make
  launched : ∀ planned i rounds builder,
    Http.Alike a b (Launch.start planned i (.ok s) rounds builder)
      (Launch.start planned i (.ok s') rounds builder)
  commanded : ∀ (c : Command) path rounds builder,
    Http.Alike a b (c.run path (.ok s) rounds builder) (c.run path (.ok s') rounds builder)
  worked : ∀ {α : Type} (work : Work α), Http.Alike a b
    ((Client.ofSettings s.service).overHttp work) ((Client.ofSettings s'.service).overHttp work)

/-- The token shows in the header of the requests and nowhere else: not in what is printed and
complained, not in what commands return, and not in the settings as they are inspected. -/
theorem token_shows_in_authorization_only (s : Settings) (a b : Token) :
    SameButForToken a b (s.withToken a) (s.withToken b) where
  check := rfl
  inspected := rfl
  planned env i make := by
    have hlevel : Launch.logLevel i (.ok (s.withToken a)) =
        Launch.logLevel i (.ok (s.withToken b)) := by
      unfold Launch.logLevel
      cases i.logLevel <;> rfl
    unfold Launch.logPlan
    rw [hlevel]
    rfl
  launched planned i rounds builder := (Launch.twins_start planned i s rounds builder).alike
  commanded c path rounds builder := (Command.twins_run c path s rounds builder).alike
  worked work := (Client.twins_overHttp (Client.ofSettings s.service) work).alike

end WarehouseJobs
