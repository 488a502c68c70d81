import EngineClient.Host.Control
import EngineClient.Main
import EngineClient.Session.Collect
import EngineClient.Session.Stream
import EngineClient.Proofs.Json.Lines
import EngineClient.Proofs.Arrow.Streams
import EngineClient.Proofs.Arrow.Cuts
import EngineClient.Proofs.Engine.Run
import EngineClient.Proofs.Session.Chunking
import EngineClient.Proofs.Session.Lifecycle
import EngineClient.Proofs.Session.Processes
import EngineClient.Proofs.Session.Rows
import EngineClient.Proofs.Session.Verdict
import EngineClient.Proofs.Arrow.Sequence
import EngineClient.Proofs.Arrow.Place
import EngineClient.Proofs.Arrow.Faults
import EngineClient.Proofs.Arrow.Framing
import EngineClient.Proofs.Session.Delivery
import EngineClient.Proofs.Session.Gathering
import EngineClient.Proofs.Analyzer.Reports
import EngineClient.Proofs.Dialect.Reading
import EngineClient.Proofs.Tables.Joining
import EngineClient.Proofs.CommandLine.Export
import EngineClient.Proofs.Arrow.Hidden
import EngineClient.Proofs.Endpoint.RoundTrip
import EngineClient.Proofs.Query
import EngineClient.Proofs.Text.Utf8.Strict
import EngineClient.Proofs.Client
import EngineClient.Proofs.Invocation
import EngineClient.Proofs.Text.Digits
import EngineClient.Proofs.Time.Calendar
import EngineClient.Proofs.Time.Rfc3339
import EngineClient.Proofs.Arrow.Addresses
import EngineClient.Proofs.Arrow.Instants
import EngineClient.Proofs.Session.Cancelling
import EngineClient.Proofs.Error
import EngineClient.Proofs.Engine.Capture
