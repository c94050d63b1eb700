import Ingest.BigQuery.FieldSchema
import Ingest.Mapping
import Ingest.Schema.Diff

/-!
# BigQuery column types

The mapper between neutral types and BigQuery columns. Lists are repeated columns, records stand
only inside lists and have scalar members, and a nullable scalar is a nullable column. Widths of
numbers and units of timestamps are lost on the way, and `checker` takes no offence at that.
-/

namespace Ingest
namespace BigQuery

/-- A column type with what is sent for its values. -/
structure ColumnType where
  type : FieldType
  mode : FieldMode
  fields : List FieldSchema
  formatter : Formatter

def mapperName : String := "bigquery"

def unsupported {α : Type} (typeName : String) : Outcome α :=
  .error (.unsupportedMapping typeName mapperName)

def modedName (mode : FieldMode) (type : FieldType) : String :=
  mode.name ++ " " ++ type.name

namespace ColumnType

/-- The column type of a field that was read from a table; values cannot be sent to it. -/
def ofFieldSchema (f : FieldSchema) : ColumnType :=
  ⟨f.type, f.mode, f.fields, .unsupported f.type.name⟩

/-- The field of a column; an empty description is none. -/
def toFieldSchema (c : ColumnType) (name : String) (description : Option String) : FieldSchema :=
  ⟨name, c.type, c.mode, description.filter fun d => !d.isEmpty, c.fields⟩

def describe (c : ColumnType) : String :=
  "BigQueryType \x7b field_type: " ++ c.type.describe ++ ", mode: " ++ c.mode.describe ++
    ", fields: [" ++ ", ".intercalate (describeFields c.fields) ++ "] \x7d"

/-- A column of values that are not null. -/
def required (type : FieldType) (formatter : Formatter) : ColumnType :=
  ⟨type, .required, [], formatter⟩

/-- The same column with null allowed. -/
def optional (c : ColumnType) : ColumnType :=
  { c with
    mode := .nullable
    formatter := c.formatter.nullPassthrough }

def repeated (c : ColumnType) : ColumnType :=
  { c with
    mode := .repeated
    formatter := .list c.formatter }

end ColumnType

instance : WarehouseType ColumnType where
  typeName c := modedName c.mode c.type
  format c := c.formatter

/-! ## From neutral types -/

/-- Sends timestamps as text. A text must be a date with time and offset, and stays as it is. -/
def timestampFormatter : Formatter := fun v _ =>
  match v with
  | .timestamp t => .ok (.string t.text)
  | .string s =>
    if (Calendar.readInstant s.toList).isSome then .ok (.string s)
    else .error (.invalidValue "RFC 3339 timestamp" s)
  | v => Formatter.refuse "timestamp" v

def scalarColumn : Scalar → Outcome ColumnType
  | .string => .ok (.required .string .string)
  | .int64 => .ok (.required .integer .int64)
  | .int32 => .ok (.required .integer .int32)
  | .float64 => .ok (.required .float .float64)
  | .float32 => .ok (.required .float .float32)
  | .bool => .ok (.required .boolean .bool)
  | .timestamp _ _ => .ok (.required .timestamp timestampFormatter)
  | .date32 => .ok (.required .date .date)
  | .binary => unsupported Scalar.binary.text

def scalarOrNullColumn (s : Scalar) (nullable : Bool) : Outcome ColumnType :=
  (scalarColumn s).map fun c => if nullable then c.optional else c

def memberColumn (f : Field) : Outcome (String × ColumnType) :=
  match f.type with
  | .scalar s => (scalarOrNullColumn s f.nullable).map fun c => (f.name, c)
  | type => unsupported type.text

def recordColumn (members : List Field) : Outcome ColumnType :=
  match members.find? fun f => !f.type.isScalar with
  | some bad => unsupported bad.type.text
  | none => do
    let columns ← members.mapM memberColumn
    return ⟨.record, .nullable, columns.map fun c => c.2.toFieldSchema c.1 none,
      .struct (columns.map fun c => (c.1, c.2.formatter))⟩

def elementColumn : DataType → Outcome ColumnType
  | .list element => unsupported (DataType.list element).text
  | .struct members => recordColumn members
  | .scalar s => scalarColumn s

def parentKey : String := "bigquery.parent_type"

/-- Whether the metadata of a type place it inside a list. -/
def insideList (m : Metadata) : Bool :=
  m.get? parentKey == some "array"

def toColumn (t : NeutralType) : Outcome ColumnType :=
  match t.type with
  | .list element => (elementColumn element).map ColumnType.repeated
  | .struct members =>
    if insideList t.metadata then recordColumn members else unsupported t.type.text
  | .scalar s => scalarOrNullColumn s t.nullable

/-! ## To neutral types -/

def scalarOf? : FieldType → Option Scalar
  | .string => some .string
  | .integer => some .int64
  | .float => some .float64
  | .boolean => some .bool
  | .timestamp => some (.timestamp .second none)
  | .date => some .date32
  | _ => none

def moded (mode : FieldMode) (type : DataType) : NeutralType :=
  match mode with
  | .repeated => ⟨.list type, true, ∅⟩
  | .required => ⟨type, false, ∅⟩
  | .nullable => ⟨type, true, ∅⟩

def plainNeutral (type : FieldType) : Outcome DataType :=
  match scalarOf? type with
  | some s => .ok (.scalar s)
  | none => unsupported (modedName .required type)

mutual

def FieldSchema.neutral : FieldSchema → Outcome NeutralType
  | ⟨_, type, mode, _, fields⟩ =>
    match type with
    | .record => do
      let members ← memberFields fields
      return moded mode (.struct members)
    | type => (plainNeutral type).map (moded mode)

def memberFields : List FieldSchema → Outcome (List Field)
  | [] => .ok []
  | f :: rest => do
    let t ← f.neutral
    let members ← memberFields rest
    return .plain f.name t.type t.nullable :: members

end

def neutralOf (c : ColumnType) : Outcome NeutralType :=
  (c.toFieldSchema "" none).neutral

def mapper : TypeMapper ColumnType where
  name := mapperName
  toWarehouse := toColumn
  toNeutral := neutralOf

/-- How fields of tables are compared with incoming fields: nullability must agree, and widths of
numbers and units of timestamps do not matter. -/
def checker : FieldChecker :=
  .strictNullability [.intWidening, .floatWidening, .anyTimestamp]

end BigQuery
end Ingest
