import RoleChain.Bindings
import RoleChain.Calendar.Date
import RoleChain.Calendar.DateTime
import RoleChain.Calendar.Reading
import RoleChain.Credentials
import RoleChain.Datum
import RoleChain.Environment
import RoleChain.ErrorCode
import RoleChain.Execution
import RoleChain.Failure
import RoleChain.FileTree
import RoleChain.Files
import RoleChain.Gathering
import RoleChain.Journal
import RoleChain.LaxFields
import RoleChain.Log
import RoleChain.Number.Binary64
import RoleChain.Number.Decimal
import RoleChain.Profile
import RoleChain.Proofs.Alone
import RoleChain.Proofs.AnswerKeys
import RoleChain.Proofs.AnswerReading
import RoleChain.Proofs.Answers
import RoleChain.Proofs.Attempt
import RoleChain.Proofs.BoundNames
import RoleChain.Proofs.CallerIdentity
import RoleChain.Proofs.Cancellation
import RoleChain.Proofs.ClientPerCall
import RoleChain.Proofs.Concurrency
import RoleChain.Proofs.Coupling
import RoleChain.Proofs.Crowd
import RoleChain.Proofs.EnvironmentVariables
import RoleChain.Proofs.Errands
import RoleChain.Proofs.Exchange
import RoleChain.Proofs.ExecutionLog
import RoleChain.Proofs.FailureFamily
import RoleChain.Proofs.Footprint
import RoleChain.Proofs.Governance
import RoleChain.Proofs.HopFailure
import RoleChain.Proofs.HopOrder
import RoleChain.Proofs.HopSecrecy
import RoleChain.Proofs.HopSteps
import RoleChain.Proofs.IssuedOutcome
import RoleChain.Proofs.LevelLogs
import RoleChain.Proofs.Likeness
import RoleChain.Proofs.Nesting
import RoleChain.Proofs.QuotedText
import RoleChain.Proofs.Registries
import RoleChain.Proofs.Repetition
import RoleChain.Proofs.ResolutionEffects
import RoleChain.Proofs.ResolutionLog
import RoleChain.Proofs.RoleSteps
import RoleChain.Proofs.Secrecy
import RoleChain.Proofs.Secrets
import RoleChain.Proofs.SessionNames
import RoleChain.Proofs.SettingsFields
import RoleChain.Proofs.SettingsSnapshot
import RoleChain.Proofs.SuffixUse
import RoleChain.Proofs.TokenExchange
import RoleChain.Proofs.TokenFile
import RoleChain.Proofs.TrimmedText
import RoleChain.Proofs.TwoRuns
import RoleChain.Proofs.WrittenRecords
import RoleChain.Provider
import RoleChain.Resolution
import RoleChain.Run
import RoleChain.Schema
import RoleChain.SessionName
import RoleChain.Settings
import RoleChain.Startup
import RoleChain.Sts.Request
import RoleChain.Sts.Response
import RoleChain.Sts.Script
import RoleChain.Sts.Transport
import RoleChain.Template
import RoleChain.Template.Layout
import RoleChain.Template.Refusal
import RoleChain.Text.Blank
import RoleChain.Text.Digit
import RoleChain.Text.Lines
import RoleChain.Text.Printable
import RoleChain.Text.Quoted
import RoleChain.Text.Uppercase
import RoleChain.Text.Utf8
import RoleChain.Value
import RoleChain.VariableFile
import RoleChain.VariableSettings
import RoleChain.World
