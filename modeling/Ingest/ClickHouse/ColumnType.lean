import Ingest.Calendar.Zone.Basic
import Ingest.ClickHouse.TypeName.Parser
import Ingest.Mapping

/-!
# ClickHouse column types

The mapper between neutral types and ClickHouse columns. A nullable scalar is a plain column with
a DEFAULT clause, and null is sent as the default value. Lists are arrays, lists of records are
nested columns, and other records have no counterpart. What is read back from a table may also be
nullable or dictionary-encoded.
-/

namespace Ingest
namespace ClickHouse

/-- The default of a column: its text in a statement and the value it denotes. -/
structure Default where
  sql : String
  value : Value

/-- A column type with what is sent for its values. -/
structure ColumnType where
  type : TypeName
  /-- Whether the column is declared with its default. -/
  declaresDefault : Bool
  default : Option Default
  formatter : Formatter

def mapperName : String := "clickhouse"

def unsupported {α : Type} (typeName : String) : Outcome α :=
  .error (.unsupportedMapping typeName mapperName)

namespace ColumnType

/-- A column type that was read from a table; values cannot be sent to it. -/
def ofTypeName (t : TypeName) : ColumnType :=
  ⟨t, false, none, .unsupported t.text⟩

def ofText (text : String) : Outcome ColumnType :=
  match TypeName.parse text with
  | .ok t => .ok (ofTypeName t)
  | .error _ => unsupported text

def definition (c : ColumnType) : String :=
  match c.default, c.declaresDefault with
  | some d, true => c.type.text ++ " DEFAULT " ++ d.sql
  | _, _ => c.type.text

def describe (c : ColumnType) : String :=
  let sql := match c.default with
    | some d => "Some(" ++ Text.quoted d.sql ++ ")"
    | none => "None"
  "ClickHouseType \x7b ty: " ++ Text.quoted c.type.text ++ ", column_default: " ++
    (if c.declaresDefault then "true" else "false") ++ ", default_sql: " ++ sql ++ " \x7d"

def dictionaryEncoded (c : ColumnType) : ColumnType :=
  { c with type := .lowCardinality c.type }

/-- The same column with its default declared; null is sent as the default value. -/
def withDefault (c : ColumnType) : ColumnType :=
  { c with
    declaresDefault := c.default.isSome
    formatter := .nullAs (c.default.elim .null (·.value)) c.formatter }

end ColumnType

instance : WarehouseType ColumnType where
  typeName c := c.type.text
  format c := c.formatter

/-! ## Timestamps -/

/-- The zone of a timestamp type; a name that is not known is refused. -/
def resolveZone (zones : Calendar.ZoneDatabase) : Option String → Outcome (Option Calendar.Zone)
  | none => .ok none
  | some name =>
    match zones name with
    | some z => .ok (some z)
    | none => unsupported ("timestamp zone " ++ Text.quoted name)

/-- The first instant at which the clocks of a zone show the beginning of 1970-01-01. -/
def localEpoch (zone : Option Calendar.Zone) : Calendar.Instant :=
  ((zone.bind fun z => (z.localInstants 0).head?).bind fun t =>
    Calendar.Instant.ofUnix? t 0).getD .epoch

def clockIn (zone : Option Calendar.Zone) (t : Calendar.Instant) : Calendar.WallClock :=
  match zone with
  | some z => z.clockAt t
  | none => t.clock 0

def timestampText (zone : Option Calendar.Zone) (t : Calendar.Instant) : String :=
  let w := clockIn zone t
  String.ofList (w.dateText ++ ' ' :: w.timeText ++ w.fractionText)

/-- Sends timestamps as text. Integers count nanoseconds since the epoch, and a text must be a
date with time and offset. -/
def timestampFormatter (zone : Option Calendar.Zone) : Formatter := fun v _ =>
  match v with
  | .timestamp t => .ok (.string (timestampText zone t))
  | .int32 n => .ok (.string (timestampText zone (.ofUnixNanos n.toInt64)))
  | .int64 n => .ok (.string (timestampText zone (.ofUnixNanos n)))
  | .string s =>
    match Calendar.readInstant s.toList with
    | some t => .ok (.string (timestampText zone t))
    | none => .error (.invalidValue "RFC 3339 timestamp" s)
  | v => Formatter.refuse "timestamp" v

/-! ## From neutral types -/

def plainColumn (name sql : String) (value : Value) (formatter : Formatter) : ColumnType :=
  ⟨.named name, false, some ⟨sql, value⟩, formatter⟩

/-- The first day of 1970. -/
def epochDate : Calendar.Date := Calendar.Instant.epoch.date

def scalarColumn (zones : Calendar.ZoneDatabase) : Scalar → Outcome ColumnType
  | .string => .ok (plainColumn "String" "''" (.string "") .string)
  | .int64 => .ok (plainColumn "Int64" "0" (.int64 0) .int64)
  | .int32 => .ok (plainColumn "Int32" "0" (.int32 0) .int32)
  | .float64 => .ok (plainColumn "Float64" "0" (.float64 0) .float64)
  | .float32 => .ok (plainColumn "Float32" "0" (.float32 0) .float32)
  | .bool => .ok (plainColumn "Bool" "0" (.bool false) .bool)
  | .date32 => .ok (plainColumn "Date32" "'1970-01-01'" (.date epochDate) .date)
  | .timestamp unit zoneName => do
    let zone ← resolveZone zones zoneName
    return ⟨.dateTime64 unit.precision zoneName, false,
      some ⟨"'1970-01-01 00:00:00'", .timestamp (localEpoch zone)⟩, timestampFormatter zone⟩
  | .binary => unsupported Scalar.binary.text

/-- A scalar type that may stand inside a nested column. -/
def nestable : DataType → Option Scalar
  | .scalar .binary => none
  | .scalar s => some s
  | _ => none

def memberColumn (zones : Calendar.ZoneDatabase) (s : Scalar) (nullable : Bool) :
    Outcome ColumnType :=
  (scalarColumn zones s).map fun c => if nullable then c.withDefault else c

def nestedColumn (zones : Calendar.ZoneDatabase) (fields : List Field) : Outcome ColumnType :=
  match fields.find? fun f => (nestable f.type).isNone with
  | some bad => unsupported bad.type.text
  | none => do
    let columns ← fields.mapM fun f =>
      match nestable f.type with
      | some s => (memberColumn zones s f.nullable).map fun c => (f.name, c)
      | none => unsupported f.type.text
    return ⟨.nested (columns.map fun c => (c.1, c.2.type)), false, none,
      .list (.struct (columns.map fun c => (c.1, c.2.formatter)))⟩

def arrayColumn (element : ColumnType) : ColumnType :=
  ⟨.array element.type, false, none, .list element.formatter⟩

/-- The column type of a list type, given the type of its elements. -/
def listColumn (zones : Calendar.ZoneDatabase) : DataType → Outcome ColumnType
  | .struct fields => nestedColumn zones fields
  | .scalar s => (scalarColumn zones s).map arrayColumn
  | .list element => (listColumn zones element).map arrayColumn

/-- The column type of a neutral type. Only scalars heed nullability and metadata. -/
def toColumn (zones : Calendar.ZoneDatabase) (t : NeutralType) : Outcome ColumnType :=
  match t.type with
  | .list element => listColumn zones element
  | .struct _ => unsupported t.type.text
  | .scalar s =>
    (scalarColumn zones s).map fun c =>
      let c := if t.metadata.flag Metadata.lowCardinalityKey then c.dictionaryEncoded else c
      if t.nullable then c.withDefault else c

/-! ## To neutral types -/

def scalarNamed? (name : String) : Option Scalar :=
  if name ∈ ["String", "string", "utf8"] then some .string
  else if name ∈ ["Int64", "int64"] then some .int64
  else if name ∈ ["Int32", "int32"] then some .int32
  else if name ∈ ["Float64", "float64"] then some .float64
  else if name ∈ ["Float32", "float32"] then some .float32
  else if name ∈ ["Bool", "bool"] then some .bool
  else if name ∈ ["Date32", "date32"] then some .date32
  else none

def TypeName.isComposite : TypeName → Bool
  | .array _ | .nested _ => true
  | _ => false

mutual

/-- The neutral type of a type name. The members of nested columns count as nullable. -/
def neutralOf : TypeName → Outcome NeutralType
  | .nested columns => do
    let fields ← neutralFields columns
    return ⟨.list (.struct fields), false, ∅⟩
  | .array element => do
    let t ← neutralOf element
    return ⟨.list t.type, false, ∅⟩
  | .nullable inner =>
    if inner.isComposite then unsupported (TypeName.nullable inner).text
    else do
      let t ← neutralOf inner
      return { t with nullable := true }
  | .lowCardinality inner => neutralOf inner
  | .named name =>
    match scalarNamed? name with
    | some s => .ok ⟨.scalar s, false, ∅⟩
    | none => unsupported (TypeName.named name).text
  | .dateTime64 precision zone =>
    match TimeUnit.ofPrecision? precision with
    | some unit => .ok ⟨.scalar (.timestamp unit zone), false, ∅⟩
    | none => unsupported (TypeName.dateTime64 precision zone).text
  | .other text => unsupported (TypeName.other text).text

def neutralFields : List (String × TypeName) → Outcome (List Field)
  | [] => .ok []
  | (name, type) :: rest => do
    let t ← neutralOf type
    let fields ← neutralFields rest
    return .plain name t.type true :: fields

end

def mapper (zones : Calendar.ZoneDatabase) : TypeMapper ColumnType where
  name := mapperName
  toWarehouse := toColumn zones
  toNeutral c := neutralOf c.type

end ClickHouse
end Ingest
