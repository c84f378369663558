-- The form in which settings are kept: a record of sections. Every setting may be missing,
-- and so may every section but the one of the service.
import WarehouseJobs.Json.Reader
import WarehouseJobs.Settings.Schema
import WarehouseJobs.Stored.Jobs

namespace WarehouseJobs

open Json (fields? text? bool? float? uint32? uint64? optional? orElse? ofOption ofUInt64 ofFloat)

def ApplicationSettings.toJson (s : ApplicationSettings) : Json :=
  .record [("log_level", .text s.logLevel)]

def ApplicationSettings.ofJson? (j : Json) : Option ApplicationSettings := do
  let base : ApplicationSettings := {}
  match ← fields? [("log_level", .default)] j with
  | [level] => some ⟨← orElse? base.logLevel text? level⟩
  | _ => none

def RetrySettings.toJson (s : RetrySettings) : Json :=
  .record [("max_retries", ofUInt64 s.maxRetries), ("initial_delay_ms", ofUInt64 s.initialDelayMs),
    ("max_delay_ms", ofUInt64 s.maxDelayMs), ("backoff_multiplier", ofFloat s.backoffMultiplier)]

def RetrySettings.ofJson? (j : Json) : Option RetrySettings := do
  let base : RetrySettings := {}
  match ← fields? [("max_retries", .default), ("initial_delay_ms", .default),
      ("max_delay_ms", .default), ("backoff_multiplier", .default)] j with
  | [retries, initial, longest, multiplier] =>
    some ⟨← orElse? base.maxRetries uint64? retries, ← orElse? base.initialDelayMs uint64? initial,
      ← orElse? base.maxDelayMs uint64? longest,
      ← orElse? base.backoffMultiplier float? multiplier⟩
  | _ => none

def Secret.toJson (s : Secret) : Json := .text s.exposed

def Secret.ofJson? (j : Json) : Option Secret := (text? j).map Secret.mk

def ServiceSettings.toJson (s : ServiceSettings) : Json :=
  .record [("base_url", .text s.baseUrl), ("access_token", ofOption Secret.toJson s.accessToken),
    ("timeout_seconds", ofUInt64 s.timeoutSeconds), ("location", ofOption .text s.location),
    ("default_project", ofOption .text s.defaultProject), ("retry", s.retry.toJson)]

def ServiceSettings.ofJson? (j : Json) : Option ServiceSettings := do
  let base : ServiceSettings := {}
  match ← fields? [("base_url", .default), ("access_token", .default),
      ("timeout_seconds", .default), ("location", .default), ("default_project", .default),
      ("retry", .default)] j with
  | [url, token, timeout, location, project, retry] =>
    some
      { baseUrl := ← orElse? base.baseUrl text? url
        accessToken := ← orElse? none (optional? Secret.ofJson?) token
        timeoutSeconds := ← orElse? base.timeoutSeconds uint64? timeout
        location := ← orElse? none (optional? text?) location
        defaultProject := ← orElse? none (optional? text?) project
        retry := ← orElse? {} RetrySettings.ofJson? retry }
  | _ => none

def JobSettings.toJson (s : JobSettings) : Json :=
  .record [("id_pattern", .text s.idPattern), ("id_max_length", ofUInt64 s.idMaxLength),
    ("export_prefix", .text s.exportPrefix), ("destination_format", s.destinationFormat.toJson)]

/-- `nothing` tells what holds nothing, where a format is named by a field. -/
def JobSettings.ofJson? (nothing : Json → Bool) (j : Json) : Option JobSettings := do
  let base : JobSettings := {}
  match ← fields? [("id_pattern", .default), ("id_max_length", .default),
      ("export_prefix", .default), ("destination_format", .default)] j with
  | [pattern, maxLength, idPrefix, format] =>
    some
      { idPattern := ← orElse? base.idPattern text? pattern
        idMaxLength := ← orElse? base.idMaxLength uint64? maxLength
        exportPrefix := ← orElse? base.exportPrefix text? idPrefix
        destinationFormat :=
          ← orElse? base.destinationFormat (Stored.named? ExportFormat.ofName? nothing) format }
  | _ => none

def PollingSettings.toJson (s : PollingSettings) : Json :=
  .record [("initial_interval_ms", ofUInt64 s.initialIntervalMs),
    ("max_interval_ms", ofUInt64 s.maxIntervalMs),
    ("backoff_multiplier", ofFloat s.backoffMultiplier),
    ("max_transient_errors", Json.ofNat s.maxTransientErrors.toNat)]

def PollingSettings.ofJson? (j : Json) : Option PollingSettings := do
  let base : PollingSettings := {}
  match ← fields? [("initial_interval_ms", .default), ("max_interval_ms", .default),
      ("backoff_multiplier", .default), ("max_transient_errors", .default)] j with
  | [initial, longest, multiplier, errors] =>
    some ⟨← orElse? base.initialIntervalMs uint64? initial,
      ← orElse? base.maxIntervalMs uint64? longest,
      ← orElse? base.backoffMultiplier float? multiplier,
      ← orElse? base.maxTransientErrors uint32? errors⟩
  | _ => none

def LoggingSettings.toJson (s : LoggingSettings) : Json :=
  .record [("local_enabled", .bool s.localEnabled), ("local_path", .text s.localPath),
    ("local_rotation", .text s.localRotation)]

def LoggingSettings.ofJson? (j : Json) : Option LoggingSettings := do
  let base : LoggingSettings := {}
  match ← fields? [("local_enabled", .default), ("local_path", .default),
      ("local_rotation", .default)] j with
  | [enabled, path, rotation] =>
    some ⟨← orElse? base.localEnabled bool? enabled, ← orElse? base.localPath text? path,
      ← orElse? base.localRotation text? rotation⟩
  | _ => none

def Settings.toJson (s : Settings) : Json :=
  .record [("application", s.application.toJson), ("service", s.service.toJson),
    ("jobs", s.jobs.toJson), ("polling", s.polling.toJson), ("logging", s.logging.toJson)]

def Settings.ofJson? (nothing : Json → Bool) (j : Json) : Option Settings := do
  match ← fields? [("application", .default), ("service", .refused), ("jobs", .default),
      ("polling", .default), ("logging", .default)] j with
  | [application, some service, jobs, polling, logging] =>
    some
      { application := ← orElse? {} ApplicationSettings.ofJson? application
        service := ← ServiceSettings.ofJson? service
        jobs := ← orElse? {} (JobSettings.ofJson? nothing) jobs
        polling := ← orElse? {} PollingSettings.ofJson? polling
        logging := ← orElse? {} LoggingSettings.ofJson? logging }
  | _ => none

end WarehouseJobs
