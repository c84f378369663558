-- The codes that the program leaves with. Whatever a command fails with, its code is the one of
-- the fault; only a fault that keeps events from being told, or the command from having a client,
-- leaves with another one.
import WarehouseJobs.CommandLine.Launch
import WarehouseJobs.Proofs.CommandLine.Telling
import WarehouseJobs.Proofs.Settings.IssuedIds
import WarehouseJobs.Settings.Load

namespace WarehouseJobs

open Program

/-! ## What a command fails with -/

namespace Command

/-- What the arguments of an export ask for, or the fault in them. -/
def Export.order (args : ExportArguments) (s : Settings) : Except Fault Export.Plan :=
  match Command.project args.project s with
  | .error fault => .error fault
  | .ok project =>
    match TableReference.ofText args.table with
    | .error fault => .error (.argument (.stated fault.message))
    | .ok source =>
      match args.destinations.mapM Destination.ofText with
      | .error fault => .error (.argument (.stated fault.message))
      | .ok destinations => .ok { project, source, destinations }

/-- The job that is asked for, or the fault in the arguments. -/
def Status.order (args : StatusArguments) (s : Settings) : Except Fault JobReference :=
  match Command.project args.project s with
  | .error fault => .error fault
  | .ok project =>
    match JobId.ofText args.jobId with
    | .error fault => .error (.argument (.name fault))
    | .ok id => .ok { project, id, location := args.location.orElse fun _ => s.service.location }

/-- The fault that some work ends with, if any. -/
def fault? {α : Type} : Except Fault α → Option Fault
  | .ok _ => none
  | .error fault => some fault

def failing {α : Type} (work : Http (Except Fault α)) : Http (Option Fault) := do
  let result ← work
  pure (fault? result)

/-- The work of an export, and who is told of it. -/
def Export.work (client : Client) (e : Exporter) (p : Export.Plan) (noWait : Bool)
    (rounds : Nat) : Http (Except Fault JobHandle) :=
  client.overHttp (e.run rounds p.project p.source p.destinations (!noWait) fun looks =>
    Work.log (Export.lookEvent looks))

/-- What a command fails with: its settings, its arguments, the client it needs, or its work. Nobody
is told. -/
def attempt (c : Command) (found : Found) (rounds : Nat) (builder : Client.Builder) :
    Http (Option Fault) :=
  match found with
  | .error fault => .done (some fault)
  | .ok s =>
    match c with
    | .exportTable args =>
      match Export.order args s with
      | .error fault => .done (some fault)
      | .ok p =>
        match Client.build builder s.service with
        | .error fault => .done (some fault)
        | .ok client =>
          match Exporter.ofSettings s with
          | .error fault => .done (some fault)
          | .ok e => failing (Export.work client e p args.noWait rounds)
    | .showStatus args =>
      match Status.order args s with
      | .error fault => .done (some fault)
      | .ok reference =>
        match Client.build builder s.service with
        | .error fault => .done (some fault)
        | .ok client =>
          failing (client.overHttp (Waiting.fetchStatus reference.project reference))
    | .describeTable args =>
      match TableReference.ofText args.table with
      | .error fault => .done (some (.argument (.stated fault.message)))
      | .ok reference =>
        match Client.build builder s.service with
        | .error fault => .done (some fault)
        | .ok client => failing (client.overHttp (Inspection.getTable reference))
    | .validateSettings => .done none

/-- With these settings, the command can use its arguments and goes on to ask the service. -/
def asksService (c : Command) (s : Settings) : Bool :=
  match c with
  | .exportTable args => (Export.order args s).isOk
  | .showStatus args => (Status.order args s).isOk
  | .describeTable args => (TableReference.ofText args.table).isOk
  | .validateSettings => false

/-- A command that would ask the service, but gets no client to do so. -/
def Stranded (c : Command) (found : Found) (builder : Client.Builder) (fault : Fault) : Prop :=
  ∃ s, found = .ok s ∧ c.asksService s = true ∧ Client.build builder s.service = .error fault

/-- The code for what a command fails with. A table that is not there has a code of its own. -/
def leavesWith (c : Command) : Option Fault → Nat
  | none => ExitCode.success
  | some fault =>
    match c with
    | .describeTable _ => if Describe.isMissing fault then ExitCode.failed else fault.exitCode
    | _ => fault.exitCode

variable {c : Command} {s : Settings} {found : Found} {builder : Client.Builder} {fault : Fault}
  {path : String} {rounds : Nat}

/-! ## Faults of the arguments -/

theorem project_fault {given : Option String} {fault : Fault}
    (h : Command.project given s = .error fault) : fault.exitCode = ExitCode.configuration := by
  unfold Command.project at h
  split at h
  · cases h
    rfl
  · split at h
    · cases h
    · cases h
      rfl

/-- Arguments are complained about exactly if there is a fault in them. -/
theorem Export.plan_or_fault (args : ExportArguments) (s : Settings) :
    (∃ p, Export.plan args s = .ok p ∧ Export.order args s = .ok p) ∨
      ∃ why fault, Export.plan args s = .error why ∧ Export.order args s = .error fault ∧
        fault.exitCode = ExitCode.configuration := by
  unfold Export.plan Export.order
  cases hproject : Command.project args.project s with
  | error fault => exact .inr ⟨_, fault, rfl, rfl, project_fault hproject⟩
  | ok project =>
    cases TableReference.ofText args.table with
    | error fault => exact .inr ⟨_, _, rfl, rfl, rfl⟩
    | ok source =>
      cases args.destinations.mapM Destination.ofText with
      | error fault => exact .inr ⟨_, _, rfl, rfl, rfl⟩
      | ok destinations => exact .inl ⟨_, rfl, rfl⟩

theorem Status.reference_or_fault (args : StatusArguments) (s : Settings) :
    (∃ reference, Status.reference args s = .ok reference ∧
      Status.order args s = .ok reference) ∨
      ∃ why fault, Status.reference args s = .error why ∧ Status.order args s = .error fault ∧
        fault.exitCode = ExitCode.configuration := by
  unfold Status.reference Status.order
  cases hproject : Command.project args.project s with
  | error fault => exact .inr ⟨_, fault, rfl, rfl, project_fault hproject⟩
  | ok project =>
    cases JobId.ofText args.jobId with
    | error fault => exact .inr ⟨_, _, rfl, rfl, rfl⟩
    | ok id => exact .inl ⟨_, rfl, rfl⟩

/-! ## Each command -/

/-- A command that does what it attempts, tells about it, and leaves with the code for it. -/
abbrev Reports (c : Command) (work : Http (Option Fault)) (p : Http (Except Fault Nat)) : Prop :=
  Http.Wraps work (fun fault => .ok (c.leavesWith fault)) p

theorem leavesWith_of_configuration {fault : Fault} (h : fault.exitCode = ExitCode.configuration) :
    c.leavesWith (some fault) = ExitCode.configuration := by
  cases c with
  | describeTable args =>
    cases fault with
    | remote fault =>
      simp only [Fault.exitCode] at h
      split at h <;> cases h
    | _ => exact h
  | _ => exact h

theorem refuse_reports {fault : Fault} (h : fault.exitCode = ExitCode.configuration)
    (line : String) : Reports c (.done (some fault)) (Http.refuse line) := by
  refine Http.Tells.wraps ?_
  rw [leavesWith_of_configuration h]
  exact Http.tells_refuse line

theorem Settings.check_of_load {env : Environment} {text : String} {s : Settings}
    (h : Settings.load env text = .ok s) : s.check = .ok () := by
  unfold Settings.load at h
  split at h
  · cases h
  · split at h
    · cases h
    · split at h
      · cases h
      · split at h
        · cases h
        · cases h
          assumption

/-- Settings that were found have been checked, and settings that were not are a fault of the
configuration. -/
structure Loaded (found : Found) : Prop where
  checked : ∀ s, found = .ok s → s.check = .ok ()
  fault : ∀ fault, found = .error fault → fault.exitCode = ExitCode.configuration

theorem loaded_error {fault : Fault} (h : fault.exitCode = ExitCode.configuration) :
    Loaded (.error fault) where
  checked _ hs := by cases hs
  fault _ hfault := by
    cases hfault
    exact h

theorem loaded_ok (h : s.check = .ok ()) : Loaded (.ok s) where
  checked _ hs := by
    cases hs
    exact h
  fault _ hfault := by cases hfault

theorem loaded_ofSource (env : Environment) (path : String) (source : Settings.Source) :
    Loaded (Settings.ofSource env path source) := by
  cases source with
  | missing => exact loaded_error rfl
  | unreadable why => exact loaded_error rfl
  | text contents =>
    unfold Settings.ofSource
    simp only
    cases hload : Settings.load env contents with
    | error fault => exact loaded_error rfl
    | ok s => exact loaded_ok (Settings.check_of_load hload)

/-! Each command reports what it comes to, unless it is stranded. -/

theorem exists_client (hclient : ∀ fault, ¬ c.Stranded (.ok s) builder fault)
    (hasks : c.asksService s = true) : ∃ client, Client.build builder s.service = .ok client := by
  cases hbuild : Client.build builder s.service with
  | error fault => exact absurd ⟨s, rfl, hasks, hbuild⟩ (hclient fault)
  | ok client => exact ⟨client, rfl⟩

theorem export_reports (args : ExportArguments) (rounds : Nat) (hfound : Loaded found)
    (hclient : ∀ fault, ¬ Stranded (.exportTable args) found builder fault) :
    Reports (.exportTable args) (attempt (.exportTable args) found rounds builder)
      (Export.run args found rounds builder) := by
  refine Http.Wraps.told (Http.tells_log Export.startEvent) ?_
  cases found with
  | error fault =>
    simp only [attempt]
    exact Http.Wraps.told (Http.tells_log _) (refuse_reports (hfound.fault fault rfl) _)
  | ok s =>
    simp only [attempt]
    rcases Export.plan_or_fault args s with ⟨p, hplan, horder⟩ | ⟨why, fault, hplan, horder, hcode⟩
    · rw [hplan, horder]
      obtain ⟨client, hbuild⟩ := exists_client hclient (by rw [asksService, horder]; rfl)
      obtain ⟨e, pattern, he, -⟩ :=
        Exporter.follows_of_check (Settings.jobs_check (hfound.checked s rfl))
      simp only [hbuild, he]
      refine Http.Wraps.told (Http.tells_say _) (Http.wraps_work fun result => ?_)
      cases result with
      | ok handle => exact (Http.tells_say _).bind rfl
      | error fault => exact (Http.tells_log _).bind ((Http.tells_complain _).bind rfl)
    · rw [hplan, horder]
      exact refuse_reports hcode why

theorem status_reports (args : StatusArguments) (hfound : Loaded found)
    (hclient : ∀ fault, ¬ Stranded (.showStatus args) found builder fault) :
    Reports (.showStatus args) (attempt (.showStatus args) found rounds builder)
      (Status.run args found builder) := by
  cases found with
  | error fault =>
    simp only [attempt, Status.run]
    exact refuse_reports (hfound.fault fault rfl) _
  | ok s =>
    simp only [attempt, Status.run]
    rcases Status.reference_or_fault args s with
      ⟨reference, hreference, horder⟩ | ⟨why, fault, hreference, horder, hcode⟩
    · rw [hreference, horder]
      obtain ⟨client, hbuild⟩ := exists_client hclient (by rw [asksService, horder]; rfl)
      simp only [hbuild]
      refine Http.wraps_work fun result => ?_
      cases result with
      | ok handle => exact (Http.tells_sayAll _).bind rfl
      | error fault => exact (Http.tells_log _).bind ((Http.tells_complain _).bind rfl)
    · rw [hreference, horder]
      exact refuse_reports hcode why

theorem describe_reports (args : TableArguments) (hfound : Loaded found)
    (hclient : ∀ fault, ¬ Stranded (.describeTable args) found builder fault) :
    Reports (.describeTable args) (attempt (.describeTable args) found rounds builder)
      (Describe.run args found builder) := by
  cases found with
  | error fault =>
    simp only [attempt, Describe.run]
    exact refuse_reports (hfound.fault fault rfl) _
  | ok s =>
    simp only [attempt, Describe.run]
    cases htable : TableReference.ofText args.table with
    | error fault => exact refuse_reports rfl _
    | ok reference =>
      obtain ⟨client, hbuild⟩ := exists_client hclient (by rw [asksService, htable]; rfl)
      simp only [hbuild]
      refine Http.wraps_work fun result => ?_
      cases result with
      | ok table => exact (Http.tells_sayAll _).bind rfl
      | error fault =>
        simp only [fault?, leavesWith]
        split
        · exact (Http.tells_say _).bind rfl
        · exact (Http.tells_complain _).bind rfl

theorem validate_reports (path : String) (hfound : Loaded found) :
    Reports .validateSettings (attempt .validateSettings found rounds builder)
      (Validate.run path found) := by
  refine Http.Wraps.told (Http.tells_log _) (Http.Wraps.told (Http.tells_sayAll _) ?_)
  cases found with
  | error fault =>
    refine Http.Tells.wraps ((Http.tells_sayAll _).bind ?_)
    rw [leavesWith_of_configuration (hfound.fault fault rfl)]
    rfl
  | ok s => exact Http.Tells.wraps ((Http.tells_sayAll _).bind rfl)

/-- A command that is not stranded passes on no fault for others to deal with. -/
theorem run_reports (c : Command) (path : String) (rounds : Nat) (hfound : Loaded found)
    (hclient : ∀ fault, ¬ c.Stranded found builder fault) :
    Reports c (c.attempt found rounds builder) (c.run path found rounds builder) := by
  cases c with
  | exportTable args => exact export_reports args rounds hfound hclient
  | showStatus args => exact status_reports args hfound hclient
  | describeTable args => exact describe_reports args hfound hclient
  | validateSettings => exact validate_reports path hfound

/-- A stranded command passes on why it gets no client, and before that it only tells that it
begins. -/
theorem run_of_stranded (path : String) (rounds : Nat) (h : c.Stranded found builder fault) :
    c.attempt found rounds builder = .done (some fault) ∧
      (c.run path found rounds builder).Tells (.error fault) := by
  obtain ⟨s, rfl, hasks, hbuild⟩ := h
  cases c with
  | exportTable args =>
    rcases Export.plan_or_fault args s with ⟨p, hplan, horder⟩ | ⟨why, fault, -, horder, -⟩
    · refine ⟨by simp only [attempt, horder, hbuild], (Http.tells_log _).bind ?_⟩
      simp only [hplan, hbuild]
      rfl
    · rw [asksService, horder] at hasks
      cases hasks
  | showStatus args =>
    rcases Status.reference_or_fault args s with
      ⟨reference, hreference, horder⟩ | ⟨why, fault, -, horder, -⟩
    · refine ⟨by simp only [attempt, horder, hbuild], ?_⟩
      simp only [run, Status.run, hreference, hbuild]
      rfl
    · rw [asksService, horder] at hasks
      cases hasks
  | describeTable args =>
    cases htable : TableReference.ofText args.table with
    | ok reference =>
      refine ⟨by simp only [attempt, htable, hbuild], ?_⟩
      simp only [run, Describe.run, htable, hbuild]
      rfl
    | error fault =>
      rw [asksService, htable] at hasks
      cases hasks
  | validateSettings => cases hasks

theorem Stranded.exitCode (h : c.Stranded found builder fault) :
    fault.exitCode = ExitCode.configuration := by
  obtain ⟨s, -, -, hbuild⟩ := h
  obtain ⟨why, -, rfl⟩ := Client.build_eq_error_iff.mp hbuild
  rfl

theorem exists_stranded_iff : (∃ fault, c.Stranded found builder fault) ↔
    ∃ s why, found = .ok s ∧ c.asksService s = true ∧
      builder s.service.timeoutSeconds = .error why := by
  constructor
  · rintro ⟨fault, s, hfound, hasks, hbuild⟩
    obtain ⟨why, hwhy, -⟩ := Client.build_eq_error_iff.mp hbuild
    exact ⟨s, why, hfound, hasks, hwhy⟩
  · rintro ⟨s, why, hfound, hasks, hwhy⟩
    exact ⟨_, s, hfound, hasks, Client.build_eq_error_iff.mpr ⟨why, hwhy, rfl⟩⟩

end Command

/-! ## The whole program -/

namespace Launch

variable {i : Invocation} {found : Command.Found} {builder : Client.Builder} {fault : Fault}

theorem run_wraps (plan : LogPlan) (rounds : Nat) (hfound : Command.Loaded found)
    (hclient : ∀ fault, ¬ i.command.Stranded found builder fault) :
    Http.Wraps (i.command.attempt found rounds builder) i.command.leavesWith
      (run plan i found rounds builder) := by
  refine Http.Wraps.told (Http.tells_log _) (Http.Wraps.told (Http.tells_log _) ?_)
  exact (Command.run_reports i.command i.settingsPath rounds hfound hclient).bind fun fault => rfl

theorem run_tells_of_stranded (plan : LogPlan) (rounds : Nat)
    (h : i.command.Stranded found builder fault) :
    (run plan i found rounds builder).Tells ExitCode.fatal := by
  refine (Http.tells_log _).bind ((Http.tells_log _).bind ?_)
  refine (Command.run_of_stranded i.settingsPath rounds h).2.bind ?_
  exact (Http.tells_log _).bind ((Http.tells_complain _).bind rfl)

/-- There is no plan if the level is not known, or if there is no place for the file. -/
theorem logPlan_error_iff {env : Environment} {make : String → Except String Unit} :
    (∃ fault, logPlan env i found make = .error fault) ↔
      LogLevel.ofName? (logLevel i found) = none ∨
        (loggingSettings found).localEnabled = true ∧
          ∃ why, make (loggingSettings found).localPath = .error why := by
  unfold logPlan LogPlan.start LogPlan.ofSettings LogPlan.withDirectory
  cases LogLevel.ofName? (logLevel i found) with
  | none => simp
  | some level =>
    cases (loggingSettings found).localEnabled with
    | false => simp
    | true => cases make (loggingSettings found).localPath <;> simp

theorem logPlan_fault {env : Environment} {make : String → Except String Unit}
    (h : logPlan env i found make = .error fault) : fault.exitCode = ExitCode.configuration := by
  unfold logPlan LogPlan.start at h
  split at h
  · cases h
    rfl
  · split at h
    · cases h
      rfl
    · cases h

theorem start_without_plan (fault : Fault) (i : Invocation) (found : Command.Found)
    (rounds : Nat) (builder : Client.Builder) :
    (start (.error fault) i found rounds builder).Tells ExitCode.fatal :=
  Http.Tells.bind (f := fun _ => pure ExitCode.fatal) (Http.tells_complain (noLogging fault)) rfl

theorem logPlan_of_unknown {env : Environment} {make : String → Except String Unit}
    {level : String} (hgiven : i.logLevel = some level) (h : LogLevel.ofName? level = none) :
    logPlan env i found make = .error (.configuration (.unknownLevel level)) := by
  simp only [logPlan, logLevel, hgiven, LogPlan.start, LogPlan.ofSettings, h]

end Launch

/-- Once it is settled how events are told, the program leaves with the code of what its command
fails with, whether that are the settings, the arguments or the work, and besides its work the
command only tells things. But a command that gets no client to ask the service with leaves with the
code for what should not happen, and so does a fault that keeps events from being told; all these
are faults of the configuration. They come up exactly if the HTTP library cannot get ready for a
command that needs it, and exactly if the level is not known or the directory of the file cannot be
made. -/
theorem failures_leave_with_their_code_once_events_are_told (env : Environment) (i : Invocation)
    (source : Settings.Source) (make : String → Except String Unit) (builder : Client.Builder)
    (rounds : Nat) :
    let found := Settings.ofSource env i.settingsPath source
    let planned := Launch.logPlan env i found make
    let program := Launch.start planned i found rounds builder
    (∀ plan, planned = .ok plan → (∀ fault, ¬ i.command.Stranded found builder fault) →
      ∀ ts code, program.Ends ts code →
        ∃ before us after fault, ts = before ++ us ++ after ∧
          (i.command.attempt found rounds builder).Ends us fault ∧
          code = i.command.leavesWith fault ∧ ∀ t ∈ before ++ after, t.isTold = true) ∧
    (∀ plan, planned = .ok plan → ∀ fault, i.command.Stranded found builder fault →
      fault.exitCode = ExitCode.configuration ∧
      (i.command.attempt found rounds builder).Ends [] (some fault) ∧
      ∀ ts code, program.Ends ts code → code = ExitCode.fatal ∧ ∀ t ∈ ts, t.isTold = true) ∧
    (∀ fault, planned = .error fault → fault.exitCode = ExitCode.configuration ∧
      ∀ ts code, program.Ends ts code → code = ExitCode.fatal ∧ ∀ t ∈ ts, t.isTold = true) ∧
    ((∃ fault, i.command.Stranded found builder fault) ↔
      ∃ s why, found = .ok s ∧ i.command.asksService s = true ∧
        builder s.service.timeoutSeconds = .error why) ∧
    ((∃ fault, planned = .error fault) ↔
      LogLevel.ofName? (Launch.logLevel i found) = none ∨
        (Launch.loggingSettings found).localEnabled = true ∧
          ∃ why, make (Launch.loggingSettings found).localPath = .error why) := by
  intro found planned program
  have hfound : Command.Loaded found := Command.loaded_ofSource env i.settingsPath source
  refine ⟨fun plan hplan hclient ts code h => ?_, fun plan hplan fault hstranded => ?_,
    fun fault hfault => ⟨Launch.logPlan_fault hfault, fun ts code h => ?_⟩,
    Command.exists_stranded_iff, Launch.logPlan_error_iff⟩
  · simp only [program, hplan] at h
    exact Launch.run_wraps plan rounds hfound hclient ts code h
  · refine ⟨hstranded.exitCode, ?_, fun ts code h => ?_⟩
    · rw [(Command.run_of_stranded i.settingsPath rounds hstranded).1]
      exact .here _
    · simp only [program, hplan] at h
      exact (Launch.run_tells_of_stranded plan rounds hstranded).ends h
  · simp only [program, hfault] at h
    exact (Launch.start_without_plan fault i found rounds builder).ends h

/-- A level that is not known is a fault of the configuration, but the program does not leave with
the code for those. -/
theorem unknown_level_leaves_with_another_code :
    let i : Invocation :=
      { settingsPath := "jobrelay.toml", logLevel := some "loud", command := .validateSettings }
    let found := Settings.ofSource [] i.settingsPath (.text "[service]\n")
    ∃ fault, Launch.logPlan [] i found (fun _ => .ok ()) = .error fault ∧
      fault.exitCode = ExitCode.configuration ∧
      ∃ ts code, (Launch.start (.error fault) i found 1).Ends ts code ∧ code ≠ fault.exitCode := by
  intro i found
  have hunknown : LogLevel.ofName? "loud" = none := by decide +kernel
  refine ⟨.configuration (.unknownLevel "loud"), Launch.logPlan_of_unknown rfl hunknown, rfl, ?_⟩
  exact ⟨[⟨.locally (.complain _), ()⟩], ExitCode.fatal, .turn (.here _), by decide⟩

end WarehouseJobs
