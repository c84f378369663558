import WarehouseJobs.CommandLine.Arguments
import WarehouseJobs.CommandLine.Commands
import WarehouseJobs.CommandLine.Help
import WarehouseJobs.CommandLine.Launch
import WarehouseJobs.CommandLine.Options
import WarehouseJobs.Decimal.Nearest
import WarehouseJobs.Decimal.Shortest
import WarehouseJobs.Effects
import WarehouseJobs.Export.Format
import WarehouseJobs.Export.Run
import WarehouseJobs.Fault
import WarehouseJobs.Http.Client
import WarehouseJobs.Http.Exchange
import WarehouseJobs.Http.Message
import WarehouseJobs.Identifier
import WarehouseJobs.Identity
import WarehouseJobs.Inspection
import WarehouseJobs.Job
import WarehouseJobs.Json.Reader
import WarehouseJobs.Json.Shape
import WarehouseJobs.Json.Value
import WarehouseJobs.Json.Writer
import WarehouseJobs.Logging.Event
import WarehouseJobs.Logging.Filter
import WarehouseJobs.Logging.Lines
import WarehouseJobs.Logging.Plan
import WarehouseJobs.Main
import WarehouseJobs.Program
import WarehouseJobs.Proofs.CommandLine.ExitCodes
import WarehouseJobs.Proofs.CommandLine.Summary
import WarehouseJobs.Proofs.CommandLine.Telling
import WarehouseJobs.Proofs.CommandLine.Token
import WarehouseJobs.Proofs.Export.Answers
import WarehouseJobs.Proofs.Export.Location
import WarehouseJobs.Proofs.Export.Outcome
import WarehouseJobs.Proofs.Export.OwnJob
import WarehouseJobs.Proofs.Export.Parts
import WarehouseJobs.Proofs.Http.Amplification
import WarehouseJobs.Proofs.Http.Attempts
import WarehouseJobs.Proofs.Http.Delays
import WarehouseJobs.Proofs.Http.Exports
import WarehouseJobs.Proofs.Http.Losses
import WarehouseJobs.Proofs.Http.Places
import WarehouseJobs.Proofs.Http.Records
import WarehouseJobs.Proofs.Http.Replies
import WarehouseJobs.Proofs.Http.Resources
import WarehouseJobs.Proofs.Http.Submitters
import WarehouseJobs.Proofs.Http.Tries
import WarehouseJobs.Proofs.Http.Twins
import WarehouseJobs.Proofs.Http.Verdicts
import WarehouseJobs.Proofs.Json.Texts
import WarehouseJobs.Proofs.Names
import WarehouseJobs.Proofs.NewIds
import WarehouseJobs.Proofs.Programs.Asking
import WarehouseJobs.Proofs.Programs.Facing
import WarehouseJobs.Proofs.Programs.Heeding
import WarehouseJobs.Proofs.Programs.Keepers
import WarehouseJobs.Proofs.Programs.Minding
import WarehouseJobs.Proofs.Programs.Requests
import WarehouseJobs.Proofs.Programs.Runs
import WarehouseJobs.Proofs.Programs.Together
import WarehouseJobs.Proofs.Programs.Turns
import WarehouseJobs.Proofs.Reasons
import WarehouseJobs.Proofs.Regex.Bracket
import WarehouseJobs.Proofs.Regex.Escape
import WarehouseJobs.Proofs.Regex.Likeness
import WarehouseJobs.Proofs.Regex.Meaning
import WarehouseJobs.Proofs.Regex.Reader
import WarehouseJobs.Proofs.Settings.IssuedIds
import WarehouseJobs.Proofs.Settings.Keys
import WarehouseJobs.Proofs.Settings.MissingVariables
import WarehouseJobs.Proofs.Settings.Placeholders
import WarehouseJobs.Proofs.Settings.Reach
import WarehouseJobs.Proofs.Settings.Substitution
import WarehouseJobs.Proofs.Stored.Forms
import WarehouseJobs.Proofs.Stored.Jobs
import WarehouseJobs.Proofs.Stored.Tables
import WarehouseJobs.Proofs.Submission.Courses
import WarehouseJobs.Proofs.Submission.NeverStarted
import WarehouseJobs.Proofs.Submission.Protocol
import WarehouseJobs.Proofs.Submission.Race
import WarehouseJobs.Proofs.Table.Spellings
import WarehouseJobs.Proofs.Text.Digits
import WarehouseJobs.Proofs.Time.Calendar
import WarehouseJobs.Proofs.Time.Instants
import WarehouseJobs.Proofs.Url.Encoding
import WarehouseJobs.Proofs.Url.Segments
import WarehouseJobs.Proofs.Waiting.Budget
import WarehouseJobs.Proofs.Waiting.CallingOff
import WarehouseJobs.Proofs.Waiting.FirstDecisive
import WarehouseJobs.Proofs.Waiting.Noting
import WarehouseJobs.Proofs.Waiting.Pacing
import WarehouseJobs.Proofs.Waiting.Sender
import WarehouseJobs.Proofs.Waiting.Sleeps
import WarehouseJobs.Proofs.Waiting.Untroubled
import WarehouseJobs.Proofs.WholeIds
import WarehouseJobs.Proofs.Wire.Bodies
import WarehouseJobs.Regex.Bracket
import WarehouseJobs.Regex.Classes
import WarehouseJobs.Regex.Escape
import WarehouseJobs.Regex.Matching
import WarehouseJobs.Regex.Pattern
import WarehouseJobs.Regex.Reader
import WarehouseJobs.Settings.Checks
import WarehouseJobs.Settings.Environment
import WarehouseJobs.Settings.Inspected
import WarehouseJobs.Settings.Load
import WarehouseJobs.Settings.Overrides
import WarehouseJobs.Settings.Schema
import WarehouseJobs.Settings.VariableFile
import WarehouseJobs.Signal
import WarehouseJobs.Simulation.Schedule
import WarehouseJobs.Simulation.Server
import WarehouseJobs.Simulation.Service
import WarehouseJobs.Stored.Jobs
import WarehouseJobs.Stored.Settings
import WarehouseJobs.Stored.Tables
import WarehouseJobs.Submission
import WarehouseJobs.Table.Description
import WarehouseJobs.Table.Reference
import WarehouseJobs.Text.Case
import WarehouseJobs.Text.Category
import WarehouseJobs.Text.Script
import WarehouseJobs.Text.Split
import WarehouseJobs.Text.Whole
import WarehouseJobs.Time.Calendar
import WarehouseJobs.Time.Instant
import WarehouseJobs.Time.Interval
import WarehouseJobs.Toml.Quote
import WarehouseJobs.Toml.Reader
import WarehouseJobs.Toml.Scalar
import WarehouseJobs.Toml.Tree
import WarehouseJobs.Url.Address
import WarehouseJobs.Url.Domain
import WarehouseJobs.Url.Ipv4
import WarehouseJobs.Url.Ipv6
import WarehouseJobs.Url.Percent
import WarehouseJobs.Url.Punycode
import WarehouseJobs.Waiting
import WarehouseJobs.Wire.Faults
import WarehouseJobs.Wire.Jobs
import WarehouseJobs.Wire.Tables
