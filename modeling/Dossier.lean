import Dossier.Consumer.Events
import Dossier.Consumer.Redelivery
import Dossier.Consumer.Requests
import Dossier.Failure.Basic
import Dossier.Failure.Processing
import Dossier.Http.Exchange
import Dossier.Ingress
import Dossier.Json.Bytes
import Dossier.Json.Decode
import Dossier.Json.Fault
import Dossier.Json.Node
import Dossier.Json.Numeral
import Dossier.Json.Position
import Dossier.Json.Printer
import Dossier.Json.Quotation
import Dossier.Json.Reader
import Dossier.Json.Value
import Dossier.Log
import Dossier.Main
import Dossier.Message.Command
import Dossier.Message.Event
import Dossier.Message.ProcessorRef
import Dossier.Message.Request
import Dossier.Number.Binary64
import Dossier.Number.Bounded
import Dossier.Number.Digits
import Dossier.Number.Layout
import Dossier.Number.Literal
import Dossier.Number.Shortest
import Dossier.Processor.Catalog
import Dossier.Processor.Endpoint
import Dossier.Processor.Registry
import Dossier.Program.Basic
import Dossier.Program.Input
import Dossier.Rehearsal.Crew
import Dossier.Rehearsal.Script
import Dossier.Rehearsal.Step
import Dossier.Row.Basic
import Dossier.Row.Payload
import Dossier.Row.Status
import Dossier.Scan
import Dossier.ScanService
import Dossier.Service.Basic
import Dossier.Service.Execution
import Dossier.Service.Initiation
import Dossier.Service.Results
import Dossier.Service.Steps
import Dossier.Settings.Basic
import Dossier.Settings.Decode
import Dossier.Settings.Entry
import Dossier.Settings.Environment
import Dossier.Settings.Loading
import Dossier.Settings.Path
import Dossier.Store.Basic
import Dossier.Store.Lines
import Dossier.Store.Table
import Dossier.Text.Blank
import Dossier.Text.Invisible
import Dossier.Text.Lower
import Dossier.Text.Quoted
import Dossier.Text.Utf8
import Dossier.Timestamp.Basic
import Dossier.Timestamp.Date
import Dossier.Timestamp.Epoch
import Dossier.Timestamp.Reader
import Dossier.Toml.Quotation
import Dossier.Toml.Reader
import Dossier.Toml.Scalar
import Dossier.Toml.Table
import Dossier.Toml.Value
import Dossier.Topic
import Dossier.Uuid
import Dossier.Proofs.Service.Effect
import Dossier.Proofs.Service.Step
import Dossier.Proofs.Service.Execution
import Dossier.Proofs.Service.Outcome
import Dossier.Proofs.Json.Quotation
import Dossier.Proofs.Except
import Dossier.Proofs.Json.Numeral
import Dossier.Proofs.Json.Number
import Dossier.Proofs.Json.Spelling
import Dossier.Proofs.Json.Decoding
import Dossier.Proofs.Uuid
import Dossier.Proofs.Message.Request
import Dossier.Proofs.Message.Command
import Dossier.Proofs.Timestamp.Parts
import Dossier.Proofs.Timestamp.Stored
import Dossier.Proofs.Store.Record
import Dossier.Proofs.Store.Refinement
import Dossier.Proofs.Json.Reading
import Dossier.Proofs.Row.Sound
import Dossier.Proofs.Row.Sorting
import Dossier.Proofs.Service.Initiation
import Dossier.Proofs.Service.Results
import Dossier.Proofs.Service.Latest
import Dossier.Proofs.Service.Requesting
import Dossier.Proofs.Service.Repetition
import Dossier.Proofs.Service.Task
import Dossier.Proofs.Service.Replay
import Dossier.Proofs.Ingress.Recorded
import Dossier.Proofs.Service.Endpoint
import Dossier.Proofs.Consumer.Handling
import Dossier.Proofs.Consumer.Chain
import Dossier.Proofs.Consumer.Traffic
import Dossier.Proofs.Consumer.Overtaking
import Dossier.Proofs.Message.Event
import Dossier.Proofs.Ingress.Effect
import Dossier.Proofs.Consumer.Carriage
import Dossier.Proofs.Timestamp.Relaxed
import Dossier.Proofs.Row.NormalForm
import Dossier.Proofs.Service.Announcement
import Dossier.Proofs.Service.Gate
import Dossier.Proofs.Service.Work
import Dossier.Proofs.Consumer.Work
import Dossier.Proofs.Consumer.Posting
import Dossier.Proofs.Consumer.Clearance
import Dossier.Proofs.Consumer.Retrying
import Dossier.Proofs.Consumer.Life
import Dossier.Proofs.Consumer.Circuit
import Dossier.Proofs.Consumer.Redelivery
import Dossier.Proofs.Consumer.Shift
import Dossier.Proofs.Store.Documents
import Dossier.Proofs.Service.Documents
import Dossier.Proofs.Service.Independence
import Dossier.Proofs.Service.Deeds
import Dossier.Proofs.Json.Tagged
import Dossier.Proofs.Message.Record
import Dossier.Proofs.Consumer.Provenance
import Dossier.Proofs.Ingress.Export
import Dossier.Proofs.Consumer.Dealing
import Dossier.Proofs.Rehearsal.Crew
import Dossier.Proofs.Rehearsal.Turn
import Dossier.Proofs.Rehearsal.Load
import Dossier.Proofs.Rehearsal.Drain
import Dossier.Proofs.Json.Printing
import Dossier.Proofs.Ingress.Framing
import Dossier.Proofs.Consumer.Silence
import Dossier.Proofs.Ingress.Console
import Dossier.Proofs.Ingress.Malformed
import Dossier.Proofs.Ingress.Illegible
import Dossier.Proofs.Store.Known
import Dossier.Proofs.Service.Extent
import Dossier.Proofs.Consumer.Trace
import Dossier.Proofs.Consumer.Stopping
import Dossier.Proofs.Consumer.Resuming
import Dossier.Proofs.Service.Verdict
import Dossier.Proofs.Timestamp.Instant
import Dossier.Proofs.Row.History
import Dossier.Proofs.Service.History
import Dossier.Proofs.Service.Restriction
import Dossier.Proofs.Json.Grammar
import Dossier.Proofs.Json.Telling
import Dossier.Proofs.Json.Parsing
import Dossier.Proofs.Json.Buffering
import Dossier.Proofs.Message.Recording
import Dossier.Proofs.Number.Rounding
import Dossier.Proofs.Number.Decimal
import Dossier.Proofs.Number.Search
import Dossier.Proofs.Number.Literal
import Dossier.Proofs.Number.Layout
import Dossier.Proofs.Settings.Guess
import Dossier.Proofs.Settings.Environment
