-- Settings as they are shown to who inspects the program: every record with its name and all its
-- fields. The token is shown, too, but not what it says.
import WarehouseJobs.Decimal.Shortest
import WarehouseJobs.Settings.Schema
import WarehouseJobs.Text.Category

namespace WarehouseJobs

/-- A record by its name, with the names of its fields and what is shown of them. -/
def Text.recordShown (name : String) (fields : List (String × String)) : String :=
  name ++ " \x7b " ++ ", ".intercalate (fields.map fun (field, value) => field ++ ": " ++ value) ++
    " \x7d"

def ExportFormat.inspected : ExportFormat → String
  | .jsonLines => "NewlineDelimitedJson"
  | .csv => "Csv"
  | .avro => "Avro"
  | .parquet => "Parquet"

def ApplicationSettings.inspected (s : ApplicationSettings) : String :=
  Text.recordShown "ApplicationConfig" [("log_level", Text.quoted s.logLevel)]

def RetrySettings.inspected (s : RetrySettings) : String :=
  Text.recordShown "RetryConfig"
    [("max_retries", toString s.maxRetries), ("initial_delay_ms", toString s.initialDelayMs),
      ("max_delay_ms", toString s.maxDelayMs),
      ("backoff_multiplier", Decimal.inspected s.backoffMultiplier)]

def ServiceSettings.inspected (s : ServiceSettings) : String :=
  Text.recordShown "ServiceConfig"
    [("base_url", Text.quoted s.baseUrl), ("access_token", Secret.shownOption s.accessToken),
      ("timeout_seconds", toString s.timeoutSeconds),
      ("location", Text.quotedOption s.location),
      ("default_project", Text.quotedOption s.defaultProject), ("retry", s.retry.inspected)]

def JobSettings.inspected (s : JobSettings) : String :=
  Text.recordShown "JobsConfig"
    [("id_pattern", Text.quoted s.idPattern), ("id_max_length", toString s.idMaxLength),
      ("export_prefix", Text.quoted s.exportPrefix),
      ("destination_format", s.destinationFormat.inspected)]

def PollingSettings.inspected (s : PollingSettings) : String :=
  Text.recordShown "PollingConfig"
    [("initial_interval_ms", toString s.initialIntervalMs),
      ("max_interval_ms", toString s.maxIntervalMs),
      ("backoff_multiplier", Decimal.inspected s.backoffMultiplier),
      ("max_transient_errors", toString s.maxTransientErrors)]

def LoggingSettings.inspected (s : LoggingSettings) : String :=
  Text.recordShown "LoggingConfig"
    [("local_enabled", toString s.localEnabled), ("local_path", Text.quoted s.localPath),
      ("local_rotation", Text.quoted s.localRotation)]

def Settings.inspected (s : Settings) : String :=
  Text.recordShown "JobRelayConfig"
    [("application", s.application.inspected), ("service", s.service.inspected),
      ("jobs", s.jobs.inspected), ("polling", s.polling.inspected),
      ("logging", s.logging.inspected)]

end WarehouseJobs
