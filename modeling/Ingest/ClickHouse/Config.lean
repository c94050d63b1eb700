import Ingest.Calendar.Span
import Ingest.Identifier
import Ingest.Json.Basic
import Ingest.Text.Classes

/-!
# ClickHouse configuration

Where tables live, how they are laid out and how long the driver waits for the server.
-/

namespace Ingest
namespace ClickHouse

/-- The configuration of a ClickHouse driver. Times are in milliseconds. -/
structure Config where
  database : String
  engine : String := "MergeTree()"
  /-- The expression that tables are partitioned by. -/
  partitionBy : Option String := none
  orderBy : List String := []
  indexGranularity : Option Nat := none
  queryTimeoutMs : Nat := 30000
  /-- How long the list of columns of a table is reused. -/
  columnsCacheTtlMs : Nat := 60000
  deriving DecidableEq

namespace Config

/-- The longest time a call may take. -/
def queryTimeout (c : Config) : Calendar.Span :=
  .ofMillis c.queryTimeoutMs

def columnsCacheTtl (c : Config) : Calendar.Span :=
  .ofMillis c.columnsCacheTtlMs

def validate (c : Config) : Outcome Unit := do
  Identifier.validate c.database
  if (Text.trimmed c.engine).isEmpty then
    throw (.invalidConfig "engine must not be empty")
  if c.queryTimeoutMs = 0 then
    throw (.invalidConfig "query_timeout_ms must be positive")
  if c.indexGranularity = some 0 then
    throw (.invalidConfig "index_granularity must be positive")

/-- Reads a configuration; only the database must be given. -/
def ofJson? (j : Json) : Option Config := do
  let r ← j.record? ["database", "engine", "partition_by", "order_by", "index_granularity",
    "query_timeout_ms", "columns_cache_ttl_ms"]
  let d : Config := { database := "" }
  return {
    database := ← r.required "database" Json.asString?
    engine := ← r.defaulted "engine" d.engine Json.asString?
    partitionBy := ← r.optional "partition_by" Json.asString?
    orderBy := ← r.defaulted "order_by" d.orderBy (Json.all Json.asString?)
    indexGranularity := ← r.optional "index_granularity" (Json.asNat? (pow2 32))
    queryTimeoutMs := ← r.defaulted "query_timeout_ms" d.queryTimeoutMs (Json.asNat? (pow2 64))
    columnsCacheTtlMs :=
      ← r.defaulted "columns_cache_ttl_ms" d.columnsCacheTtlMs (Json.asNat? (pow2 64)) }

end Config
end ClickHouse
end Ingest
