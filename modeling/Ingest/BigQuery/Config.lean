import Ingest.BigQuery.Table
import Ingest.Calendar.Span
import Ingest.Identifier

/-!
# BigQuery configuration

Where tables live, how they are partitioned, how rows are sent and how long the driver waits.
-/

namespace Ingest
namespace BigQuery

/-- The partitioning of the tables that a driver creates. -/
structure Partitioning where
  interval : PartitionInterval := .day
  field : String
  /-- After how many days partitions expire; zero means never. -/
  expirationDays : Nat := 0
  deriving DecidableEq

namespace Partitioning

/-- The number of days is below this limit. -/
def daysLimit : Nat := pow2 32

/-- What is wrong with an empty name. -/
def emptyField : String := "partitioning field must not be empty"

/-- Partitioning by a column, which must have a name. -/
def byField (interval : PartitionInterval) (field : String) : Except String Partitioning :=
  if field.isEmpty then .error emptyField
  else .ok ⟨interval, field, 0⟩

def withExpirationDays (p : Partitioning) (days : Nat) : Partitioning :=
  { p with expirationDays := days }

/-- The part of a table's description. -/
def timePartitioning (p : Partitioning) : TimePartitioning :=
  ⟨p.interval, some p.field⟩

/-- Reads a partitioning; only the column must be given. -/
def ofJson? (j : Json) : Option Partitioning := do
  let r ← j.record? ["interval", "field", "expiration_days"]
  let interval ← r.defaulted "interval" .day PartitionInterval.ofJson?
  let field ← r.required "field" Json.asString?
  let expirationDays ← r.defaulted "expiration_days" 0 (Json.asNat? daysLimit)
  return ⟨interval, field, expirationDays⟩

end Partitioning

/-- How rows are sent. -/
inductive WriterKind where
  /-- As a list of objects. -/
  | streaming
  /-- As a text with one object per line. -/
  | loadJob
  deriving DecidableEq, Repr

namespace WriterKind

def describe : WriterKind → String
  | streaming => "Streaming"
  | loadJob => "LoadJob"

def named? : String → Option WriterKind
  | "streaming" => some streaming
  | "load_job" => some loadJob
  | _ => none

def ofJson? (j : Json) : Option WriterKind :=
  (j.asChoice? Json.isNull).bind named?

end WriterKind

/-- The configuration of a BigQuery driver. Times are in milliseconds. -/
structure Config where
  projectId : String
  dataset : String
  partitioning : Option Partitioning := none
  queryTimeoutMs : Nat := 30000
  /-- How long a created table may take to become visible. -/
  tableCreationTimeoutMs : Nat := 10000
  writer : WriterKind := .streaming
  deriving DecidableEq

namespace Config

/-- The longest time a call may take. -/
def queryTimeout (c : Config) : Calendar.Span :=
  .ofMillis c.queryTimeoutMs

/-- The longest time a created table may take to become visible. -/
def tableCreationTimeout (c : Config) : Calendar.Span :=
  .ofMillis c.tableCreationTimeoutMs

/-- Refuses names that are no identifiers and times that are zero. -/
def validate (c : Config) : Outcome Unit := do
  Identifier.validate c.projectId
  Identifier.validate c.dataset
  if let some p := c.partitioning then
    Identifier.validate p.field
  if c.queryTimeoutMs = 0 then
    throw (.invalidConfig "query_timeout_ms must be positive")
  if c.tableCreationTimeoutMs = 0 then
    throw (.invalidConfig "table_creation_timeout_ms must be positive")

/-- Reads a configuration; only the project and the dataset must be given. -/
def ofJson? (j : Json) : Option Config := do
  let r ← j.record? ["project_id", "dataset", "partitioning", "query_timeout_ms",
    "table_creation_timeout_ms", "writer"]
  let d : Config := { projectId := "", dataset := "" }
  return {
    projectId := ← r.required "project_id" Json.asString?
    dataset := ← r.required "dataset" Json.asString?
    partitioning := ← r.optional "partitioning" Partitioning.ofJson?
    queryTimeoutMs := ← r.defaulted "query_timeout_ms" d.queryTimeoutMs (Json.asNat? (pow2 64))
    tableCreationTimeoutMs :=
      ← r.defaulted "table_creation_timeout_ms" d.tableCreationTimeoutMs (Json.asNat? (pow2 64))
    writer := ← r.defaulted "writer" d.writer WriterKind.ofJson? }

end Config
end BigQuery
end Ingest
