import Ingest.BigQuery.FieldSchema

/-!
# BigQuery tables

How a table is described: its fields, the column it is partitioned by and the tag of its version.
-/

namespace Ingest
namespace BigQuery

/-- The length of time that one partition holds. -/
inductive PartitionInterval where
  | hour
  | day
  | month
  | year
  deriving DecidableEq, Repr

namespace PartitionInterval

def name : PartitionInterval → String
  | hour => "HOUR"
  | day => "DAY"
  | month => "MONTH"
  | year => "YEAR"

def named? : String → Option PartitionInterval
  | "HOUR" => some hour
  | "DAY" => some day
  | "MONTH" => some month
  | "YEAR" => some year
  | _ => none

def ofJson? (j : Json) : Option PartitionInterval :=
  (j.asChoice? Json.isNull).bind named?

theorem named?_name (i : PartitionInterval) : named? i.name = some i := by
  cases i <;> rfl

end PartitionInterval

/-- Partitioning by time, by a column or by the time of arrival. -/
structure TimePartitioning where
  interval : PartitionInterval
  field : Option String := none
  deriving DecidableEq

namespace TimePartitioning

def toJson (p : TimePartitioning) : Json :=
  .object ((match p.field with
      | some f => [("field", .string f)]
      | none => []) ++ [("type", .string p.interval.name)])

def ofJson? (j : Json) : Option TimePartitioning := do
  let r ← j.record? ["type", "field"]
  let interval ← r.required "type" PartitionInterval.ofJson?
  let field ← r.optional "field" Json.asString?
  return ⟨interval, field⟩

end TimePartitioning

/-- The description of a table. -/
structure TableMetadata where
  schema : List FieldSchema
  timePartitioning : Option TimePartitioning := none
  /-- The tag of the version that was read. -/
  etag : Option String := none

namespace TableMetadata

def toJson (t : TableMetadata) : Json :=
  .object ((match t.etag with
      | some e => [("etag", .string e)]
      | none => []) ++
    [("schema", .array (fieldSchemasToJson t.schema))] ++
    (match t.timePartitioning with
      | some p => [("timePartitioning", p.toJson)]
      | none => []))

/-- Reads the description of a table. -/
def ofJson? (j : Json) : Option TableMetadata := do
  let r ← j.record? ["schema", "timePartitioning", "etag"]
  let schema ← r.required "schema" fun s => s.asArray?.bind fieldSchemasOfJson?
  let timePartitioning ← r.optional "timePartitioning" TimePartitioning.ofJson?
  let etag ← r.optional "etag" Json.asString?
  return ⟨schema, timePartitioning, etag⟩

end TableMetadata
end BigQuery
end Ingest
