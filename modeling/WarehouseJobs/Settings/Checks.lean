-- What settings must fulfil to be used. The first thing that is wrong is reported.
import WarehouseJobs.Decimal.Shortest
import WarehouseJobs.Identifier
import WarehouseJobs.Settings.Schema

namespace WarehouseJobs

/-- What is wrong with the settings. -/
inductive SettingFault where
  | logLevel (given : String)
  | noBaseUrl
  | baseUrlScheme
  | noTimeout
  | maxRetries (given : UInt64)
  | multiplier (key : String) (given : Float)
  | badPattern (pattern why : String)
  | noIdLength
  | prefixMismatch (idPrefix pattern : String)
  | idsRejected (pattern sample : String)
  | noRoomForIds (idPrefix : String) (limit : UInt64)
  | noInitialInterval
  | intervalOrder (longest initial : UInt64)
  | rotation (given : String)
  | noLogPath
deriving Repr

def logLevels : List String := ["trace", "debug", "info", "warn", "error"]

def rotations : List String := ["daily", "hourly", "never"]

/-- The largest multiplier of delays and sleeps. -/
def largestMultiplier : Float := 10.0

def SettingFault.message : SettingFault → String
  | .logLevel given =>
    "Invalid log_level '" ++ given ++ "'. Must be one of: " ++ ", ".intercalate logLevels
  | .noBaseUrl => "service.base_url cannot be empty"
  | .baseUrlScheme => "service.base_url must start with http:// or https://"
  | .noTimeout => "service.timeout_seconds must be > 0"
  | .maxRetries given =>
    s!"service.retry.max_retries must be between 1 and 10, got {given.toNat}"
  | .multiplier key given =>
    key ++ " must be between 1.0 and " ++ Decimal.positional largestMultiplier ++ ", got " ++
      Decimal.positional given
  | .badPattern pattern why => "jobs.id_pattern '" ++ pattern ++ "' is not a valid regex: " ++ why
  | .noIdLength => "jobs.id_max_length must be > 0"
  | .prefixMismatch idPrefix pattern =>
    "jobs.export_prefix '" ++ idPrefix ++ "' must match pattern '" ++ pattern ++ "'"
  | .idsRejected pattern sample =>
    "jobs.id_pattern '" ++ pattern ++ "' rejects generated ids such as '" ++ sample ++ "'"
  | .noRoomForIds idPrefix limit =>
    "jobs.export_prefix '" ++ idPrefix ++
      s!"' leaves no room for the unique suffix within {limit.toNat} characters"
  | .noInitialInterval => "polling.initial_interval_ms must be > 0"
  | .intervalOrder longest initial =>
    s!"polling.max_interval_ms ({longest.toNat}) must be >= polling.initial_interval_ms ({initial.toNat})"
  | .rotation given =>
    "Invalid logging.local_rotation '" ++ given ++ "'. Must be one of: " ++
      ", ".intercalate rotations
  | .noLogPath => "logging.local_path cannot be empty when local_enabled"

/-! ## Section by section -/

def checkMultiplier (key : String) (x : Float) : Except SettingFault Unit :=
  if x.isFinite && 1.0 ≤ x && x ≤ largestMultiplier then .ok ()
  else .error (.multiplier key x)

def ApplicationSettings.check (s : ApplicationSettings) : Except SettingFault Unit :=
  if logLevels.contains s.logLevel then .ok () else .error (.logLevel s.logLevel)

def RetrySettings.check (s : RetrySettings) : Except SettingFault Unit :=
  if s.maxRetries = 0 ∨ 10 < s.maxRetries then .error (.maxRetries s.maxRetries)
  else checkMultiplier "service.retry.backoff_multiplier" s.backoffMultiplier

def ServiceSettings.check (s : ServiceSettings) : Except SettingFault Unit :=
  if s.baseUrl.isEmpty then .error .noBaseUrl
  else if !s.baseUrl.startsWith "http://" && !s.baseUrl.startsWith "https://" then
    .error .baseUrlScheme
  else if s.timeoutSeconds = 0 then .error .noTimeout
  else s.retry.check

/-- What the random part of an id looks like, with the hyphen in front. -/
def sampleSuffix : String := "-00000000-0000-0000-0000-000000000000"

/-- How many characters the random part takes, with the hyphen in front. -/
def suffixLength : Nat := 37

def JobSettings.check (s : JobSettings) : Except SettingFault Unit :=
  match wholePattern? s.idPattern with
  | none => .error (.badPattern s.idPattern "regex parse error")
  | some pattern =>
    if s.idMaxLength = 0 then .error .noIdLength
    else if !pattern.isIn s.exportPrefix then .error (.prefixMismatch s.exportPrefix s.idPattern)
    else if !pattern.isIn (s.exportPrefix ++ sampleSuffix) then
      .error (.idsRejected s.idPattern (s.exportPrefix ++ sampleSuffix))
    else if s.idMaxLength.toNat < s.exportPrefix.length + suffixLength then
      .error (.noRoomForIds s.exportPrefix s.idMaxLength)
    else .ok ()

def PollingSettings.check (s : PollingSettings) : Except SettingFault Unit :=
  if s.initialIntervalMs = 0 then .error .noInitialInterval
  else if s.maxIntervalMs < s.initialIntervalMs then
    .error (.intervalOrder s.maxIntervalMs s.initialIntervalMs)
  else checkMultiplier "polling.backoff_multiplier" s.backoffMultiplier

def LoggingSettings.check (s : LoggingSettings) : Except SettingFault Unit :=
  if !rotations.contains s.localRotation then .error (.rotation s.localRotation)
  else if s.localEnabled && s.localPath.isEmpty then .error .noLogPath
  else .ok ()

def Settings.check (s : Settings) : Except SettingFault Unit := do
  s.application.check
  s.service.check
  s.jobs.check
  s.polling.check
  s.logging.check

theorem Settings.check_eq_ok_iff {s : Settings} : s.check = .ok () ↔
    s.application.check = .ok () ∧ s.service.check = .ok () ∧ s.jobs.check = .ok () ∧
      s.polling.check = .ok () ∧ s.logging.check = .ok () := by
  have hthen : ∀ first next : Except SettingFault Unit,
      (do first; next) = .ok () ↔ first = .ok () ∧ next = .ok () := by
    rintro (_ | _) _ <;> simp [bind, Except.bind]
  simp only [check, hthen]

end WarehouseJobs
