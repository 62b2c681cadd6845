import Rollout.Artifact
import Rollout.Artifact.Key
import Rollout.Catalog
import Rollout.Catalog.Normalize
import Rollout.Catalog.Options
import Rollout.Command
import Rollout.CommandLine.Given
import Rollout.CommandLine.Help
import Rollout.CommandLine.Level
import Rollout.CommandLine.Reader
import Rollout.Compatibility
import Rollout.Completeness
import Rollout.Component
import Rollout.Config
import Rollout.Config.Environment
import Rollout.Config.File
import Rollout.Document.Artifact
import Rollout.Document.Config
import Rollout.Document.Error
import Rollout.Document.Event
import Rollout.Document.Output
import Rollout.Document.Payload
import Rollout.Edition
import Rollout.Error
import Rollout.Event
import Rollout.Event.Log
import Rollout.Event.Status
import Rollout.Flow
import Rollout.Http.Client
import Rollout.Http.Endpoint
import Rollout.Http.Playback
import Rollout.Http.Settings
import Rollout.Http.Status
import Rollout.Http.Url
import Rollout.Http.Url.Host
import Rollout.Http.Url.Reader
import Rollout.Http.Wire
import Rollout.Json
import Rollout.Json.Decode
import Rollout.Json.Reader
import Rollout.Json.Token
import Rollout.Json.Writer
import Rollout.Main
import Rollout.Mirror
import Rollout.Operation
import Rollout.Operation.Deployments
import Rollout.Operation.Execute
import Rollout.Operation.Load
import Rollout.Operation.Relay
import Rollout.Program
import Rollout.Program.Failure
import Rollout.Program.Startup
import Rollout.Proofs.Artifact.Key
import Rollout.Proofs.Catalog.Arrangement
import Rollout.Proofs.Catalog.Lookup
import Rollout.Proofs.Catalog.Normalize
import Rollout.Proofs.Catalog.Order
import Rollout.Proofs.Catalog.Rejection
import Rollout.Proofs.Catalog.Supply
import Rollout.Proofs.Compatibility
import Rollout.Proofs.Completeness
import Rollout.Proofs.Config.Check
import Rollout.Proofs.Config.Layer
import Rollout.Proofs.Document.Artifact
import Rollout.Proofs.Document.Config
import Rollout.Proofs.Document.Error
import Rollout.Proofs.Document.Event
import Rollout.Proofs.Document.ReadBack
import Rollout.Proofs.Http.Answer
import Rollout.Proofs.Http.Connection
import Rollout.Proofs.Http.Endpoint
import Rollout.Proofs.Http.Sending
import Rollout.Proofs.Json.ReadBack
import Rollout.Proofs.Json.Reader
import Rollout.Proofs.Json.Record
import Rollout.Proofs.Json.Token
import Rollout.Proofs.Json.Writer
import Rollout.Proofs.Mirror
import Rollout.Proofs.Operation.Draft
import Rollout.Proofs.Operation.Failures
import Rollout.Proofs.Operation.Load
import Rollout.Proofs.Operation.Progress
import Rollout.Proofs.Operation.Relay
import Rollout.Proofs.Operation.Replay
import Rollout.Proofs.Operation.Versions
import Rollout.Proofs.Program.Password
import Rollout.Proofs.Program.Startup
import Rollout.Proofs.Reading
import Rollout.Proofs.Recommendation
import Rollout.Proofs.Report
import Rollout.Proofs.Service.Polling
import Rollout.Proofs.Session.Choice
import Rollout.Proofs.Session.Listing
import Rollout.Proofs.Session.LowVersion
import Rollout.Proofs.Session.Order
import Rollout.Proofs.Session.Proxy
import Rollout.Proofs.Session.Readiness
import Rollout.Proofs.Session.Refusal
import Rollout.Proofs.Session.Run
import Rollout.Proofs.Session.Stream
import Rollout.Proofs.Size
import Rollout.Proofs.Size.Mebibytes
import Rollout.Proofs.Size.Rounding
import Rollout.Proofs.StableLine
import Rollout.Proofs.Text.Blank
import Rollout.Proofs.Text.Numeral
import Rollout.Proofs.Text.Percent
import Rollout.Proofs.Text.Split
import Rollout.Proofs.Text.Utf8
import Rollout.Proofs.Version
import Rollout.Recommendation
import Rollout.Rehearsal
import Rollout.Render
import Rollout.Report
import Rollout.Selection
import Rollout.Service.Payload
import Rollout.Service.Polling
import Rollout.Service.Request
import Rollout.Service.Script
import Rollout.Session
import Rollout.Size
import Rollout.StableLine
import Rollout.Terminal
import Rollout.Text.Blank
import Rollout.Text.Character
import Rollout.Text.Dictionary
import Rollout.Text.Display
import Rollout.Text.Encoding
import Rollout.Text.Numeral
import Rollout.Text.Percent
import Rollout.Text.Split
import Rollout.Text.Utf8
import Rollout.Toml.Document
import Rollout.Toml.Quotation
import Rollout.Toml.Scalar
import Rollout.Toml.Tree
import Rollout.Version
