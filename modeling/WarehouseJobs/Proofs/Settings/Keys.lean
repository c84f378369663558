-- The keys of the settings, one by one: where each stands in a settings text, which variable
-- is named after it, and how its value is read and replaced. The laws here go through the keys
-- once; nothing that builds on them has to.
import Mathlib.Data.List.Nodup
import WarehouseJobs.Settings.Overrides
import WarehouseJobs.Stored.Settings

namespace WarehouseJobs

/-- All that can be set. -/
inductive Key where
  | logLevel
  | baseUrl
  | accessToken
  | timeoutSeconds
  | location
  | defaultProject
  | maxRetries
  | initialDelayMs
  | maxDelayMs
  | retryMultiplier
  | idPattern
  | idMaxLength
  | exportPrefix
  | destinationFormat
  | initialIntervalMs
  | maxIntervalMs
  | pollingMultiplier
  | maxTransientErrors
  | localEnabled
  | localPath
  | localRotation
deriving DecidableEq, Repr

namespace Key

/-- In the order in which settings are written. -/
def all : List Key :=
  [.logLevel, .baseUrl, .accessToken, .timeoutSeconds, .location, .defaultProject, .maxRetries,
    .initialDelayMs, .maxDelayMs, .retryMultiplier, .idPattern, .idMaxLength, .exportPrefix,
    .destinationFormat, .initialIntervalMs, .maxIntervalMs, .pollingMultiplier,
    .maxTransientErrors, .localEnabled, .localPath, .localRotation]

theorem mem_all (k : Key) : k ∈ all := by cases k <;> decide

/-! ## Names -/

/-- The sections that lead to a key, and the key. -/
def path : Key → List String
  | .logLevel => ["application", "log_level"]
  | .baseUrl => ["service", "base_url"]
  | .accessToken => ["service", "access_token"]
  | .timeoutSeconds => ["service", "timeout_seconds"]
  | .location => ["service", "location"]
  | .defaultProject => ["service", "default_project"]
  | .maxRetries => ["service", "retry", "max_retries"]
  | .initialDelayMs => ["service", "retry", "initial_delay_ms"]
  | .maxDelayMs => ["service", "retry", "max_delay_ms"]
  | .retryMultiplier => ["service", "retry", "backoff_multiplier"]
  | .idPattern => ["jobs", "id_pattern"]
  | .idMaxLength => ["jobs", "id_max_length"]
  | .exportPrefix => ["jobs", "export_prefix"]
  | .destinationFormat => ["jobs", "destination_format"]
  | .initialIntervalMs => ["polling", "initial_interval_ms"]
  | .maxIntervalMs => ["polling", "max_interval_ms"]
  | .pollingMultiplier => ["polling", "backoff_multiplier"]
  | .maxTransientErrors => ["polling", "max_transient_errors"]
  | .localEnabled => ["logging", "local_enabled"]
  | .localPath => ["logging", "local_path"]
  | .localRotation => ["logging", "local_rotation"]

def upperCase (name : String) : String := String.ofList (name.toList.map Char.toUpper)

/-- The variable that is named after a key: its sections and its name in upper case. -/
def envName (k : Key) : String := "_".intercalate ("JOBRELAY" :: k.path.map upperCase)

theorem envName_injective {k l : Key} (h : k.envName = l.envName) : k = l := by
  have hnodup : (all.map envName).Nodup := by decide +kernel
  exact List.inj_on_of_nodup_map hnodup (mem_all k) (mem_all l) h

/-! ## Values -/

abbrev Value : Key → Type
  | .accessToken => Option Secret
  | .location | .defaultProject => Option String
  | .timeoutSeconds | .maxRetries | .initialDelayMs | .maxDelayMs | .idMaxLength
  | .initialIntervalMs | .maxIntervalMs => UInt64
  | .maxTransientErrors => UInt32
  | .retryMultiplier | .pollingMultiplier => Float
  | .destinationFormat => ExportFormat
  | .localEnabled => Bool
  | .logLevel | .baseUrl | .idPattern | .exportPrefix | .localPath | .localRotation => String

def get : (k : Key) → Settings → k.Value
  | .logLevel, s => s.application.logLevel
  | .baseUrl, s => s.service.baseUrl
  | .accessToken, s => s.service.accessToken
  | .timeoutSeconds, s => s.service.timeoutSeconds
  | .location, s => s.service.location
  | .defaultProject, s => s.service.defaultProject
  | .maxRetries, s => s.service.retry.maxRetries
  | .initialDelayMs, s => s.service.retry.initialDelayMs
  | .maxDelayMs, s => s.service.retry.maxDelayMs
  | .retryMultiplier, s => s.service.retry.backoffMultiplier
  | .idPattern, s => s.jobs.idPattern
  | .idMaxLength, s => s.jobs.idMaxLength
  | .exportPrefix, s => s.jobs.exportPrefix
  | .destinationFormat, s => s.jobs.destinationFormat
  | .initialIntervalMs, s => s.polling.initialIntervalMs
  | .maxIntervalMs, s => s.polling.maxIntervalMs
  | .pollingMultiplier, s => s.polling.backoffMultiplier
  | .maxTransientErrors, s => s.polling.maxTransientErrors
  | .localEnabled, s => s.logging.localEnabled
  | .localPath, s => s.logging.localPath
  | .localRotation, s => s.logging.localRotation

open Overrides in
def put : (k : Key) → Settings → k.Value → Settings
  | .logLevel, s, v => { s with application := ⟨v⟩ }
  | .baseUrl, s, v => inService (fun t => { t with baseUrl := v }) s
  | .accessToken, s, v => inService (fun t => { t with accessToken := v }) s
  | .timeoutSeconds, s, v => inService (fun t => { t with timeoutSeconds := v }) s
  | .location, s, v => inService (fun t => { t with location := v }) s
  | .defaultProject, s, v => inService (fun t => { t with defaultProject := v }) s
  | .maxRetries, s, v => inService (fun t => { t with retry := { t.retry with maxRetries := v } }) s
  | .initialDelayMs, s, v =>
    inService (fun t => { t with retry := { t.retry with initialDelayMs := v } }) s
  | .maxDelayMs, s, v => inService (fun t => { t with retry := { t.retry with maxDelayMs := v } }) s
  | .retryMultiplier, s, v =>
    inService (fun t => { t with retry := { t.retry with backoffMultiplier := v } }) s
  | .idPattern, s, v => { s with jobs := { s.jobs with idPattern := v } }
  | .idMaxLength, s, v => { s with jobs := { s.jobs with idMaxLength := v } }
  | .exportPrefix, s, v => { s with jobs := { s.jobs with exportPrefix := v } }
  | .destinationFormat, s, v => { s with jobs := { s.jobs with destinationFormat := v } }
  | .initialIntervalMs, s, v => inPolling (fun t => { t with initialIntervalMs := v }) s
  | .maxIntervalMs, s, v => inPolling (fun t => { t with maxIntervalMs := v }) s
  | .pollingMultiplier, s, v => inPolling (fun t => { t with backoffMultiplier := v }) s
  | .maxTransientErrors, s, v => inPolling (fun t => { t with maxTransientErrors := v }) s
  | .localEnabled, s, v => { s with logging := { s.logging with localEnabled := v } }
  | .localPath, s, v => { s with logging := { s.logging with localPath := v } }
  | .localRotation, s, v => { s with logging := { s.logging with localRotation := v } }

@[simp] theorem get_put_same (k : Key) (s : Settings) (v : k.Value) : k.get (k.put s v) = v := by
  cases k <;> rfl

theorem get_put_other {k l : Key} (h : l ≠ k) (s : Settings) (v : k.Value) :
    l.get (k.put s v) = l.get s := by
  cases k <;> cases l <;> first | rfl | exact absurd rfl h

end Key

end WarehouseJobs
