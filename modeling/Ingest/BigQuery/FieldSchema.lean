import Ingest.Json.Basic
import Ingest.Text.Quoted

/-!
# BigQuery fields

A field of a BigQuery table has a type and a mode; the fields of a record stand inside it. The
JSON form is the one in which tables are described: reading takes the mode NULLABLE where none
is given, and writing leaves out what is empty.
-/

namespace Ingest
namespace BigQuery

/-- The types of fields. -/
inductive FieldType where
  | string
  | bytes
  | integer
  | float
  | numeric
  | boolean
  | timestamp
  | date
  | time
  | datetime
  | record
  | json
  deriving DecidableEq, Repr

namespace FieldType

def all : List FieldType :=
  [string, bytes, integer, float, numeric, boolean, timestamp, date, time, datetime, record, json]

def name : FieldType → String
  | string => "STRING"
  | bytes => "BYTES"
  | integer => "INTEGER"
  | float => "FLOAT"
  | numeric => "NUMERIC"
  | boolean => "BOOLEAN"
  | timestamp => "TIMESTAMP"
  | date => "DATE"
  | time => "TIME"
  | datetime => "DATETIME"
  | record => "RECORD"
  | json => "JSON"

def describe : FieldType → String
  | string => "String"
  | bytes => "Bytes"
  | integer => "Integer"
  | float => "Float"
  | numeric => "Numeric"
  | boolean => "Boolean"
  | timestamp => "Timestamp"
  | date => "Date"
  | time => "Time"
  | datetime => "Datetime"
  | record => "Record"
  | json => "Json"

def named? (s : String) : Option FieldType :=
  all.find? fun t => t.name == s

def ofJson? (j : Json) : Option FieldType :=
  (j.asChoice? Json.isNull).bind named?

theorem named?_name (t : FieldType) : named? t.name = some t := by
  cases t <;> decide

end FieldType

/-- Whether a field may be null or holds a list. -/
inductive FieldMode where
  | nullable
  | required
  | repeated
  deriving DecidableEq, Repr

namespace FieldMode

def name : FieldMode → String
  | nullable => "NULLABLE"
  | required => "REQUIRED"
  | repeated => "REPEATED"

def describe : FieldMode → String
  | nullable => "Nullable"
  | required => "Required"
  | repeated => "Repeated"

def named? : String → Option FieldMode
  | "NULLABLE" => some nullable
  | "REQUIRED" => some required
  | "REPEATED" => some repeated
  | _ => none

def ofJson? (j : Json) : Option FieldMode :=
  (j.asChoice? Json.isNull).bind named?

theorem named?_name (m : FieldMode) : named? m.name = some m := by
  cases m <;> rfl

end FieldMode

/-- A field of a table or of a record. -/
structure FieldSchema where
  name : String
  type : FieldType
  mode : FieldMode
  description : Option String
  fields : List FieldSchema

namespace FieldSchema

instance : Inhabited FieldSchema := ⟨⟨"", .string, .nullable, none, []⟩⟩

end FieldSchema

/-! ## Text in messages -/

mutual

def FieldSchema.describe : FieldSchema → String
  | ⟨name, type, mode, description, fields⟩ =>
    "FieldSchema \x7b name: " ++ Text.quoted name ++ ", field_type: " ++ type.describe ++
      ", mode: " ++ mode.describe ++ ", description: " ++
      (match description with
        | some d => "Some(" ++ Text.quoted d ++ ")"
        | none => "None") ++
      ", fields: [" ++ ", ".intercalate (describeFields fields) ++ "] \x7d"

def describeFields : List FieldSchema → List String
  | [] => []
  | f :: rest => f.describe :: describeFields rest

end

/-! ## Writing -/

mutual

def FieldSchema.toJson : FieldSchema → Json
  | ⟨name, type, mode, description, fields⟩ =>
    .object ((match description with
        | some d => [("description", .string d)]
        | none => []) ++
      (match fields with
        | [] => []
        | f :: rest => [("fields", .array (f.toJson :: fieldSchemasToJson rest))]) ++
      [("mode", .string mode.name), ("name", .string name), ("type", .string type.name)])

def fieldSchemasToJson : List FieldSchema → List Json
  | [] => []
  | f :: rest => f.toJson :: fieldSchemasToJson rest

end

/-! ## Reading -/

namespace FieldSchema

/-- Reads a field from its record, given the fields inside it. -/
def ofMembers? (r : Json) (fields : List FieldSchema) : Option FieldSchema := do
  let name ← r.required "name" Json.asString?
  let type ← r.required "type" FieldType.ofJson?
  let mode ← r.defaulted "mode" .nullable FieldMode.ofJson?
  let description ← r.optional "description" Json.asString?
  return ⟨name, type, mode, description, fields⟩

end FieldSchema

mutual

def FieldSchema.ofJson? (j : Json) : Option FieldSchema :=
  match _hrecord : j.record? ["name", "type", "mode", "description", "fields"] with
  | none => none
  | some r =>
    match _h : r.member? "fields" with
    | none => FieldSchema.ofMembers? r []
    | some (.array items) => (fieldSchemasOfJson? items).bind (FieldSchema.ofMembers? r)
    | some _ => none
termination_by sizeOf j
decreasing_by
  have := Json.sizeOf_lt_of_record? _hrecord _h
  simp at this
  omega

def fieldSchemasOfJson? (items : List Json) : Option (List FieldSchema) :=
  match items with
  | [] => some []
  | item :: rest => do
    let f ← FieldSchema.ofJson? item
    let others ← fieldSchemasOfJson? rest
    return f :: others
termination_by sizeOf items
decreasing_by
  · simp only [List.cons.sizeOf_spec]
    omega
  · simp only [List.cons.sizeOf_spec]
    omega

end

end BigQuery
end Ingest
