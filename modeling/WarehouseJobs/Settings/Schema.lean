-- All settings with their defaults. Only the section of the service has to be there.
import WarehouseJobs.Export.Format

namespace WarehouseJobs

/-! ## Secrets -/

/-- To read a secret, one has to ask for it by name. -/
structure Secret where
  exposed : String
deriving DecidableEq

namespace Secret

/-- What is shown in the place of any secret. -/
def shown (_ : Secret) : String := "Secret([REDACTED jobrelay::config::secret::SecretValue])"

/-- What is shown of a secret that may be missing. -/
def shownOption : Option Secret → String
  | none => "None"
  | some s => "Some(" ++ s.shown ++ ")"

def isEmpty (s : Secret) : Bool := s.exposed.isEmpty

end Secret

/-! ## Sections -/

structure ApplicationSettings where
  /-- One of the five log levels. -/
  logLevel : String := "info"

/-- How often and how fast a request is tried again. -/
structure RetrySettings where
  /-- Tries after the first one. -/
  maxRetries : UInt64 := 3
  initialDelayMs : UInt64 := 1000
  maxDelayMs : UInt64 := 30000
  backoffMultiplier : Float := 2.0

def defaultBaseUrl : String := "https://bigquery.googleapis.com/bigquery/v2"

structure ServiceSettings where
  baseUrl : String := defaultBaseUrl
  /-- Sent with every request; how to get one is not our concern. -/
  accessToken : Option Secret := none
  timeoutSeconds : UInt64 := 60
  /-- Where look-ups search for jobs. -/
  location : Option String := none
  /-- The project of commands that name none. -/
  defaultProject : Option String := none
  retry : RetrySettings := {}

def defaultIdPattern : String := "^[A-Za-z0-9_-]+$"

def defaultIdMaxLength : UInt64 := 1024

/-- What job ids have to look like, and what exports are like. -/
structure JobSettings where
  idPattern : String := defaultIdPattern
  /-- In characters. -/
  idMaxLength : UInt64 := defaultIdMaxLength
  exportPrefix : String := "direct-export"
  destinationFormat : ExportFormat := .jsonLines

/-- How a running job is watched. -/
structure PollingSettings where
  /-- The first sleep between two looks. -/
  initialIntervalMs : UInt64 := 1000
  /-- The longest sleep between two looks. -/
  maxIntervalMs : UInt64 := 10000
  /-- By how much each sleep is longer than the one before. -/
  backoffMultiplier : Float := 1.5
  /-- How many passing faults in a row are put up with. -/
  maxTransientErrors : UInt32 := 3

structure LoggingSettings where
  /-- Whether a file is written besides the console. -/
  localEnabled : Bool := false
  localPath : String := "./logs"
  localRotation : String := "daily"

structure Settings where
  application : ApplicationSettings := {}
  service : ServiceSettings := {}
  jobs : JobSettings := {}
  polling : PollingSettings := {}
  logging : LoggingSettings := {}

end WarehouseJobs
