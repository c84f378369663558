-- Settings that the environment sets, whatever the text says.
import WarehouseJobs.Settings.Environment
import WarehouseJobs.Settings.Schema
import WarehouseJobs.Text.Whole

namespace WarehouseJobs.Overrides

/-- What a variable does to the settings, once its value is known. -/
structure Override where
  name : String
  apply : Settings → String → Except ConfigurationFault Settings

/-- A value of some kind other than a text. -/
def typed {α : Type} (name : String) (read : String → Option α)
    (put : Settings → α → Settings) : Override :=
  { name
    apply := fun s value =>
      match read value with
      | some a => .ok (put s a)
      | none => .error (.badOverride value name) }

def plain (name : String) (put : Settings → String → Settings) : Override :=
  { name, apply := fun s value => .ok (put s value) }

def bool? (s : String) : Option Bool :=
  if s = "true" then some true else if s = "false" then some false else none

def inService (f : ServiceSettings → ServiceSettings) (s : Settings) : Settings :=
  { s with service := f s.service }

def inPolling (f : PollingSettings → PollingSettings) (s : Settings) : Settings :=
  { s with polling := f s.polling }

/-- All of them, in the order in which they are looked at. -/
def all : List Override :=
  [plain "JOBRELAY_APPLICATION_LOG_LEVEL" fun s v => { s with application := ⟨v⟩ },
    plain "JOBRELAY_SERVICE_BASE_URL" fun s v => inService (fun t => { t with baseUrl := v }) s,
    plain "JOBRELAY_SERVICE_ACCESS_TOKEN" fun s v =>
      inService (fun t => { t with accessToken := some ⟨v⟩ }) s,
    plain "JOBRELAY_SERVICE_LOCATION" fun s v =>
      inService (fun t => { t with location := some v }) s,
    plain "JOBRELAY_SERVICE_DEFAULT_PROJECT" fun s v =>
      inService (fun t => { t with defaultProject := some v }) s,
    typed "JOBRELAY_SERVICE_TIMEOUT_SECONDS" Text.uint64? fun s v =>
      inService (fun t => { t with timeoutSeconds := v }) s,
    plain "JOBRELAY_JOBS_EXPORT_PREFIX" fun s v =>
      { s with jobs := { s.jobs with exportPrefix := v } },
    { name := "JOBRELAY_JOBS_DESTINATION_FORMAT"
      apply := fun s v =>
        match ExportFormat.ofText? v with
        | some f => .ok { s with jobs := { s.jobs with destinationFormat := f } }
        | none => .error (.unknownFormat v) },
    typed "JOBRELAY_POLLING_INITIAL_INTERVAL_MS" Text.uint64? fun s v =>
      inPolling (fun t => { t with initialIntervalMs := v }) s,
    typed "JOBRELAY_POLLING_MAX_INTERVAL_MS" Text.uint64? fun s v =>
      inPolling (fun t => { t with maxIntervalMs := v }) s,
    typed "JOBRELAY_POLLING_MAX_TRANSIENT_ERRORS" Text.uint32? fun s v =>
      inPolling (fun t => { t with maxTransientErrors := v }) s,
    typed "JOBRELAY_LOGGING_LOCAL_ENABLED" bool? fun s v =>
      { s with logging := { s.logging with localEnabled := v } },
    plain "JOBRELAY_LOGGING_LOCAL_PATH" fun s v =>
      { s with logging := { s.logging with localPath := v } }]

/-- Applies the variables that are set, one after the other. -/
def applyAll (env : Environment) : List Override → Settings → Except ConfigurationFault Settings
  | [], s => .ok s
  | o :: rest, s =>
    match env.get? o.name with
    | none => applyAll env rest s
    | some value =>
      match o.apply s value with
      | .ok s => applyAll env rest s
      | .error fault => .error fault

end WarehouseJobs.Overrides
