import Ingest.Arrow.Basic
import Ingest.Arrow.Batch
import Ingest.Arrow.Interchange
import Ingest.Batching.Config
import Ingest.Batching.Machine
import Ingest.Batching.Schedule
import Ingest.BigQuery.Client
import Ingest.BigQuery.ColumnType
import Ingest.BigQuery.Config
import Ingest.BigQuery.Driver
import Ingest.BigQuery.FieldSchema
import Ingest.BigQuery.Table
import Ingest.BigQuery.Visibility
import Ingest.Calendar.Civil
import Ingest.Calendar.Date
import Ingest.Calendar.Instant
import Ingest.Calendar.Span
import Ingest.Calendar.Zone.Basic
import Ingest.Calendar.Zone.Known
import Ingest.ClickHouse.Client
import Ingest.ClickHouse.ColumnType
import Ingest.ClickHouse.Config
import Ingest.ClickHouse.Driver
import Ingest.ClickHouse.Folding
import Ingest.ClickHouse.Statement
import Ingest.ClickHouse.TypeName.Basic
import Ingest.ClickHouse.TypeName.Parser
import Ingest.ClickHouse.TypeName.Token
import Ingest.Ddl
import Ingest.Decimal.Notation
import Ingest.Decimal.Shortest
import Ingest.Dict
import Ingest.Driver.Basic
import Ingest.Driver.Layers
import Ingest.Driver.Reconcile
import Ingest.Driver.Recorder
import Ingest.Event
import Ingest.Failure
import Ingest.Floating.Binary
import Ingest.Format.Formatter
import Ingest.Format.Row
import Ingest.Identifier
import Ingest.Json.Basic
import Ingest.Mapping
import Ingest.Metadata
import Ingest.Power
import Ingest.Schema.Basic
import Ingest.Schema.Compare
import Ingest.Schema.DataType
import Ingest.Schema.Diff
import Ingest.Schema.Json
import Ingest.Text.Classes
import Ingest.Text.Digits
import Ingest.Text.Letter
import Ingest.Text.Quoted
import Ingest.Timing
import Ingest.Value.Basic
import Ingest.Value.Text
import Ingest.Proofs.Dict
import Ingest.Proofs.Batching.Conservation
import Ingest.Proofs.BigQuery.RoundTrip
import Ingest.Proofs.Driver.Reconciliation
import Ingest.Proofs.Schema.Coverage
import Ingest.Proofs.BigQuery.Server
import Ingest.Proofs.BigQuery.Convergence
import Ingest.Proofs.ClickHouse.TypeTokens
import Ingest.Proofs.ClickHouse.TypeText
import Ingest.Proofs.ClickHouse.RoundTrip
import Ingest.Proofs.ClickHouse.Flattening
import Ingest.Proofs.ClickHouse.FoldedNames
import Ingest.Proofs.ClickHouse.Folding
import Ingest.Proofs.ClickHouse.Server
import Ingest.Proofs.ClickHouse.Extension
import Ingest.Proofs.ClickHouse.Convergence
import Ingest.Proofs.BigQuery.Stream
import Ingest.Proofs.Batching.Grouping
import Ingest.Proofs.BigQuery.Batched
import Ingest.Proofs.ClickHouse.Requests
import Ingest.Proofs.ClickHouse.Layout
import Ingest.Proofs.Ddl.ItemList
import Ingest.Proofs.ClickHouse.ColumnList
import Ingest.Proofs.Batching.Origins
import Ingest.Proofs.Batching.Shutdown
import Ingest.Proofs.BigQuery.Sharing
import Ingest.Proofs.Driver.Caller
import Ingest.Proofs.Driver.Course
import Ingest.Proofs.Driver.Interference
import Ingest.Proofs.BigQuery.Races
import Ingest.Proofs.Format.Typing
import Ingest.Proofs.ClickHouse.Wire
import Ingest.Proofs.Driver.Unrelated
import Ingest.Proofs.Driver.Notes
import Ingest.Proofs.BigQuery.Expiration
import Ingest.Proofs.ClickHouse.Cache
import Ingest.Proofs.ClickHouse.Handover
import Ingest.Proofs.Schema.Comparison
import Ingest.Proofs.Schema.Widening
import Ingest.Proofs.Schema.Relaxation
import Ingest.Proofs.BigQuery.Wire
import Ingest.Proofs.Floating.Finite
import Ingest.Proofs.Json.Positions
import Ingest.Proofs.Format.Finite
import Ingest.Proofs.BigQuery.Nulls
import Ingest.Proofs.Schema.Missing
import Ingest.Proofs.ClickHouse.Splitting
import Ingest.Proofs.ClickHouse.Grammar
import Ingest.Proofs.ClickHouse.PrintedTokens
import Ingest.Proofs.ClickHouse.Reprinting
import Ingest.Proofs.Mapping
import Ingest.Proofs.Driver.Rounds
import Ingest.Proofs.BigQuery.Waiting
import Ingest.Proofs.BigQuery.Creation
import Ingest.Proofs.BigQuery.Rules
import Ingest.Proofs.BigQuery.Domain
import Ingest.Proofs.ClickHouse.Rules
import Ingest.Proofs.ClickHouse.Domain
import Ingest.Proofs.Format.Refusals
import Ingest.Proofs.ClickHouse.Lookup
import Ingest.Proofs.ClickHouse.Coherence
import Ingest.Proofs.Arrow.Interchange
import Ingest.Proofs.Calendar.Clock
import Ingest.Proofs.Text.Runs
import Ingest.Proofs.Calendar.LocalTime
import Ingest.Proofs.ClickHouse.Timestamps
import Ingest.Proofs.ClickHouse.Defaults
import Ingest.Proofs.BigQuery.Delivery
import Ingest.Proofs.Schema.JsonForm
import Ingest.Proofs.Arrow.Range
import Ingest.Proofs.Arrow.Rows
