import AdapterGateway.Call
import AdapterGateway.Channel
import AdapterGateway.Child
import AdapterGateway.CommandLine
import AdapterGateway.Decimal.Binary64
import AdapterGateway.Decimal.Literal
import AdapterGateway.Decimal.Shortest
import AdapterGateway.Dialogue
import AdapterGateway.Dictionary
import AdapterGateway.Environment
import AdapterGateway.Fault
import AdapterGateway.Files
import AdapterGateway.Host
import AdapterGateway.Http.Intake
import AdapterGateway.Http.Request
import AdapterGateway.Http.Response
import AdapterGateway.Instance
import AdapterGateway.Inventory.Collection
import AdapterGateway.Inventory.Event
import AdapterGateway.Inventory.Graph
import AdapterGateway.Inventory.Identifier
import AdapterGateway.Inventory.Key
import AdapterGateway.Inventory.Outcome
import AdapterGateway.Inventory.Sample
import AdapterGateway.Json.Decode
import AdapterGateway.Json.Number
import AdapterGateway.Json.Reader
import AdapterGateway.Json.Record
import AdapterGateway.Json.Tree
import AdapterGateway.Json.Value
import AdapterGateway.Main
import AdapterGateway.Net.Address
import AdapterGateway.Pipe
import AdapterGateway.Proofs.Admission
import AdapterGateway.Proofs.Conversation
import AdapterGateway.Proofs.Discretion
import AdapterGateway.Proofs.Environment.Contents
import AdapterGateway.Proofs.Environment.Crossing
import AdapterGateway.Proofs.Environment.Isolation
import AdapterGateway.Proofs.Environment.Precedence
import AdapterGateway.Proofs.Environment.Reading
import AdapterGateway.Proofs.Environment.RoundTrip
import AdapterGateway.Proofs.Http.Buffering
import AdapterGateway.Proofs.Http.Framing
import AdapterGateway.Proofs.Http.HeadLimit
import AdapterGateway.Proofs.Http.HeadParsing
import AdapterGateway.Proofs.Http.Rendering
import AdapterGateway.Proofs.Inventory.Acceptance
import AdapterGateway.Proofs.Inventory.Additions
import AdapterGateway.Proofs.Inventory.Agreement
import AdapterGateway.Proofs.Inventory.Document
import AdapterGateway.Proofs.Inventory.Edges
import AdapterGateway.Proofs.Inventory.Events
import AdapterGateway.Proofs.Inventory.History
import AdapterGateway.Proofs.Inventory.Identity
import AdapterGateway.Proofs.Inventory.Keys
import AdapterGateway.Proofs.Inventory.Ledger
import AdapterGateway.Proofs.Inventory.Pass
import AdapterGateway.Proofs.Inventory.Properties
import AdapterGateway.Proofs.Inventory.Refusal
import AdapterGateway.Proofs.Inventory.Report
import AdapterGateway.Proofs.Inventory.Samples
import AdapterGateway.Proofs.Inventory.Survey
import AdapterGateway.Proofs.Json.Edits
import AdapterGateway.Proofs.Json.Extent
import AdapterGateway.Proofs.Json.Forms
import AdapterGateway.Proofs.Json.Numbers
import AdapterGateway.Proofs.Json.Origins
import AdapterGateway.Proofs.Json.Pruning
import AdapterGateway.Proofs.Json.Records
import AdapterGateway.Proofs.Json.RoundTrip
import AdapterGateway.Proofs.Json.Strings
import AdapterGateway.Proofs.Occurrence
import AdapterGateway.Proofs.Request.Presentation
import AdapterGateway.Proofs.Request.Redaction
import AdapterGateway.Proofs.Request.Refusal
import AdapterGateway.Proofs.Settings.Commands
import AdapterGateway.Proofs.Settings.Defaults
import AdapterGateway.Proofs.Supervision.Course
import AdapterGateway.Proofs.Supervision.Custody
import AdapterGateway.Proofs.Supervision.Discipline
import AdapterGateway.Proofs.Supervision.Fairness
import AdapterGateway.Proofs.Supervision.Holdings
import AdapterGateway.Proofs.Supervision.Interleaving
import AdapterGateway.Proofs.Supervision.Lossless
import AdapterGateway.Proofs.Supervision.Patience
import AdapterGateway.Proofs.Supervision.Prompt
import AdapterGateway.Proofs.Supervision.Relay
import AdapterGateway.Proofs.Supervision.Sending
import AdapterGateway.Proofs.Supervision.Silence
import AdapterGateway.Proofs.Supervision.Starting
import AdapterGateway.Proofs.Supervision.Transfer
import AdapterGateway.Proofs.Text.Case
import AdapterGateway.Proofs.Text.Lines
import AdapterGateway.Proofs.Text.Strict
import AdapterGateway.Proofs.Text.Utf8
import AdapterGateway.Proofs.Text.Words
import AdapterGateway.Request
import AdapterGateway.Service
import AdapterGateway.Settings
import AdapterGateway.Supervision
import AdapterGateway.Text.Blank
import AdapterGateway.Text.Case
import AdapterGateway.Text.CaseTable
import AdapterGateway.Text.Description
import AdapterGateway.Text.Digits
import AdapterGateway.Text.HiddenTable
import AdapterGateway.Text.Quoted
import AdapterGateway.Text.Utf8
import AdapterGateway.Toml.Node
import AdapterGateway.Toml.Reader
import AdapterGateway.Toml.Scalar
