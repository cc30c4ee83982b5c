import Stepflow.Api.Request
import Stepflow.Audit.Book
import Stepflow.Audit.Entry
import Stepflow.Cli.Arguments
import Stepflow.Cli.Files
import Stepflow.Cli.Program
import Stepflow.Cli.Session
import Stepflow.Condition
import Stepflow.Context
import Stepflow.Decimal.Layout
import Stepflow.Decimal.Reading
import Stepflow.Decimal.Shortest
import Stepflow.Engine
import Stepflow.Failure
import Stepflow.Generation.Answer
import Stepflow.Generation.Chat
import Stepflow.Handler.Builtin
import Stepflow.Handler.Condition
import Stepflow.Handler.FetchApi
import Stepflow.Handler.Fields
import Stepflow.Handler.Loop
import Stepflow.Handler.Mail
import Stepflow.Handler.Prompt
import Stepflow.Handler.Query
import Stepflow.Handler.Record
import Stepflow.Handler.Task
import Stepflow.Handler.Transform
import Stepflow.Handler.Trigger
import Stepflow.Html.Builder
import Stepflow.Html.Element
import Stepflow.Html.Fragment
import Stepflow.Html.Names
import Stepflow.Html.Reference
import Stepflow.Html.Rules
import Stepflow.Html.Tag
import Stepflow.Http.Charset
import Stepflow.Http.Client
import Stepflow.Http.CodePage
import Stepflow.Http.Encoding
import Stepflow.Http.Host
import Stepflow.Http.Url
import Stepflow.Json.Decode
import Stepflow.Json.Reader
import Stepflow.Json.Tree
import Stepflow.Mail
import Stepflow.Main
import Stepflow.Proofs.Handlers
import Stepflow.Proofs.Journal
import Stepflow.Proofs.Loop
import Stepflow.Proofs.Outputs
import Stepflow.Proofs.Siblings
import Stepflow.Proofs.Trail
import Stepflow.Records.Filter
import Stepflow.Records.Query
import Stepflow.Records.Store
import Stepflow.Registry
import Stepflow.Run.Outcome
import Stepflow.Settings.Basic
import Stepflow.Settings.EnvFile
import Stepflow.Settings.Layers
import Stepflow.Settings.Loose
import Stepflow.Template
import Stepflow.Text.Blank
import Stepflow.Text.CaseTable
import Stepflow.Text.Casing
import Stepflow.Text.Cut
import Stepflow.Text.Marker
import Stepflow.Text.Quoted
import Stepflow.Time.Calendar
import Stepflow.Time.Rfc3339
import Stepflow.Time.Timestamp
import Stepflow.Toml.Document
import Stepflow.Toml.Item
import Stepflow.Toml.Scalar
import Stepflow.Value.Basic
import Stepflow.Value.Loose
import Stepflow.Value.Merge
import Stepflow.Value.Number
import Stepflow.Value.Path
import Stepflow.Value.Text
import Stepflow.Workflow.Definition
import Stepflow.Workflow.Id
import Stepflow.Workflow.Source
import Stepflow.Workflow.Step
import Stepflow.World
import Stepflow.Proofs.Deeds
import Stepflow.Proofs.Atomic
import Stepflow.Proofs.SideEffects
import Stepflow.Proofs.Retention
import Stepflow.Proofs.Agreement
import Stepflow.Proofs.Resume
import Stepflow.Proofs.Reach
import Stepflow.Proofs.Validation
import Stepflow.Proofs.Depth
import Stepflow.Proofs.Forest
import Stepflow.Proofs.Ledger
import Stepflow.Proofs.RecordMap
import Stepflow.Proofs.Tables
import Stepflow.Proofs.Mirror
import Stepflow.Proofs.Calendar
import Stepflow.Proofs.Decoding
import Stepflow.Proofs.Casing
import Stepflow.Proofs.Timestamps
import Stepflow.Proofs.Definitions
import Stepflow.Proofs.Doubles
import Stepflow.Proofs.Ordering
import Stepflow.Proofs.Windows
import Stepflow.Proofs.Merging
import Stepflow.Proofs.Templates
import Stepflow.Proofs.Filling
import Stepflow.Proofs.Addressing
import Stepflow.Proofs.Payloads
import Stepflow.Proofs.Selection
import Stepflow.Proofs.Modes
import Stepflow.Proofs.Operators
import Stepflow.Proofs.Walking
import Stepflow.Proofs.Markers
import Stepflow.Proofs.Compact
import Stepflow.Proofs.Answers
import Stepflow.Proofs.Dispatch
import Stepflow.Proofs.Inputs
import Stepflow.Proofs.Conditions
import Stepflow.Proofs.Spellings
import Stepflow.Proofs.Membership
