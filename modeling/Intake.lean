import Intake.Act
import Intake.Event
import Intake.Failure
import Intake.Http.Route
import Intake.Leadership.Candidate
import Intake.Leadership.External
import Intake.Leadership.Lock
import Intake.Leadership.LockServer
import Intake.Leadership.Rounds
import Intake.Leadership.Scripted
import Intake.Leadership.Status
import Intake.LogFilter
import Intake.Main
import Intake.Meter.Basic
import Intake.Meter.Throughput
import Intake.Net.SocketAddress
import Intake.Number.Binary64
import Intake.Number.Decimal
import Intake.Postgres.Connection
import Intake.Postgres.CopyChunks
import Intake.Postgres.CopyText
import Intake.Postgres.Credentials
import Intake.Postgres.Pool
import Intake.Postgres.Rehearsal
import Intake.Postgres.RelationName
import Intake.Postgres.Server
import Intake.Postgres.Source
import Intake.Postgres.SqlToken
import Intake.Postgres.Statements
import Intake.Proofs.Leadership.LockTable
import Intake.Proofs.Leadership.Safety
import Intake.Proofs.Number.Order
import Intake.Proofs.Number.Rounding
import Intake.Proofs.Number.Whole
import Intake.Proofs.Service.Writing
import Intake.Proofs.Store.Tables
import Intake.Proofs.Store.Write
import Intake.Series.Labels
import Intake.Series.Sample
import Intake.Service.Clock
import Intake.Service.Instance
import Intake.Service.Liveness
import Intake.Service.Peers
import Intake.Service.Program
import Intake.Service.Serving
import Intake.Service.Startup
import Intake.Service.Writing
import Intake.Settings.Basic
import Intake.Settings.Check
import Intake.Settings.KeyPath
import Intake.Settings.Layers
import Intake.Settings.Node
import Intake.Settings.Reading
import Intake.Settings.Toml
import Intake.Store.BatchWrite
import Intake.Store.Memory
import Intake.Store.Phase
import Intake.Store.Tables
import Intake.Text.Blank
import Intake.Text.Case
import Intake.Text.Detail
import Intake.Text.Hidden
import Intake.Text.JsonObject
import Intake.Text.JsonString
import Intake.Text.Letter
import Intake.Text.Lower
import Intake.Text.Pattern
import Intake.Text.Quoted
import Intake.Text.Ranges
import Intake.Text.Utf8
import Intake.Time.Calendar
import Intake.Time.Span
import Intake.Wire.Block
import Intake.Wire.Element
import Intake.Wire.Encoding
import Intake.Wire.Field
import Intake.Wire.Input
import Intake.Wire.WriteRequest
import Intake.Proofs.Meter.Family
import Intake.Proofs.Service.Ledger
import Intake.Proofs.Service.Accounting
import Intake.Proofs.Leadership.Turns
import Intake.Proofs.Leadership.Pause
import Intake.Proofs.Store.Interleaving
import Intake.Proofs.Store.Coherence
import Intake.Proofs.Store.Resubmission
import Intake.Proofs.Store.Effect
import Intake.Proofs.Wire.Input
import Intake.Proofs.Wire.Block
import Intake.Proofs.Text.Blank
import Intake.Proofs.Text.Utf8
import Intake.Proofs.Wire.Field
import Intake.Proofs.Wire.WriteRequest
import Intake.Proofs.Act
import Intake.Proofs.Postgres.Transcript
import Intake.Proofs.Postgres.Statements
import Intake.Proofs.Postgres.Pool
import Intake.Proofs.Postgres.BatchSession
import Intake.Proofs.Postgres.Backends
import Intake.Proofs.Postgres.Hygiene
import Intake.Proofs.Postgres.Rotation
import Intake.Proofs.Postgres.CopyText
import Intake.Proofs.Text.JsonObject
import Intake.Proofs.Series.Labels
import Intake.Proofs.Service.Ingestion
import Intake.Proofs.Service.Frame
import Intake.Proofs.Service.Idleness
import Intake.Proofs.Http.Route
import Intake.Proofs.Service.Timing
import Intake.Proofs.Service.Decision
import Intake.Proofs.Service.Throughput
import Intake.Proofs.Leadership.Farewell
import Intake.Proofs.Settings.Tree
import Intake.Proofs.Settings.Fields
import Intake.Proofs.Settings.Environment
import Intake.Proofs.Settings.Layering
import Intake.Proofs.Settings.Variables
import Intake.Wire.Grammar
import Intake.Proofs.Wire.Grammar
import Intake.Proofs.Wire.Insertion
import Intake.Proofs.Wire.Cut
import Intake.Proofs.Time.Calendar
import Intake.Proofs.Time.Stamp
import Intake.Proofs.Series.Sample
import Intake.Proofs.Postgres.BulkLoad
import Intake.Proofs.Store.Reordering
import Intake.Proofs.Postgres.RelationName
import Intake.Proofs.Http.Path
import Intake.Proofs.Service.Routing
import Intake.Proofs.Service.Startup
import Intake.Proofs.Settings.Check
import Intake.Proofs.Postgres.SqlToken
import Intake.Proofs.Number.Exact
import Intake.Proofs.Meter.Sampling
import Intake.Proofs.Leadership.Journal
import Intake.Proofs.Postgres.Lending
