import Ingest.Schema.DataType
import Ingest.Text.Quoted

/-!
# Arrow types

The types of Arrow columns, as far as they matter here: those with a neutral counterpart are told
apart, and others are foreign. Large variants differ from regular ones only in how they are stored.
Of the types without a neutral counterpart, lists of a fixed size, list views, maps, unions and
run-end-encoded types are left out.
-/

namespace Ingest
namespace Arrow

/-- How offsets into variable-size content are stored. -/
inductive Size where
  | regular
  | large
  deriving DecidableEq, Repr

/-- What an interval of the calendar consists of. -/
inductive IntervalUnit where
  | yearMonth
  | dayTime
  | monthDayNano
  deriving DecidableEq, Repr

/-- Types without parts and without neutral counterpart. -/
inductive Foreign where
  | null
  | int8
  | int16
  | uint8
  | uint16
  | uint32
  | uint64
  | float16
  | date64
  | utf8View
  | binaryView
  | time32 (unit : TimeUnit)
  | time64 (unit : TimeUnit)
  | duration (unit : TimeUnit)
  | interval (unit : IntervalUnit)
  | decimal128 (precision : Nat) (scale : Int)
  | decimal256 (precision : Nat) (scale : Int)
  | fixedSizeBinary (size : Int)
  deriving DecidableEq, Repr

mutual

/-- The type of a column. -/
inductive ArrowType where
  | bool
  | int32
  | int64
  | float32
  | float64
  | date32
  | timestamp (unit : TimeUnit) (zone : Option String)
  | utf8 (size : Size)
  | binary (size : Size)
  | list (size : Size) (item : ArrowField)
  | struct (fields : List ArrowField)
  | foreign (type : Foreign)
  | dictionary (key value : ArrowType)

/-- A named column or part of a type. -/
structure ArrowField where
  name : String
  type : ArrowType
  nullable : Bool
  metadata : Metadata

end

instance : Inhabited ArrowType := ⟨.bool⟩

/-- The columns of a batch, with metadata of their own. -/
structure ArrowSchema where
  fields : List ArrowField
  metadata : Metadata := ∅

/-! ## Text in messages -/

/-- A unit as it is shown in messages. -/
def describeUnit : TimeUnit → String
  | .second => "Second"
  | .millisecond => "Millisecond"
  | .microsecond => "Microsecond"
  | .nanosecond => "Nanosecond"

def applied (name parameter : String) : String :=
  name ++ "(" ++ parameter ++ ")"

def sized (size : Size) (name : String) : String :=
  match size with
  | .regular => name
  | .large => "Large" ++ name

def describeMetadata (m : Metadata) : String :=
  "\x7b" ++
    ", ".intercalate (m.entries.map fun e => Text.quoted e.1 ++ ": " ++ Text.quoted e.2) ++ "\x7d"

namespace IntervalUnit

/-- A unit as it is shown in messages. -/
def describe : IntervalUnit → String
  | yearMonth => "YearMonth"
  | dayTime => "DayTime"
  | monthDayNano => "MonthDayNano"

end IntervalUnit

namespace Foreign

def describeDecimal (name : String) (precision : Nat) (scale : Int) : String :=
  applied name (Text.natText precision ++ ", " ++ Text.intText scale)

def describe : Foreign → String
  | null => "Null"
  | int8 => "Int8"
  | int16 => "Int16"
  | uint8 => "UInt8"
  | uint16 => "UInt16"
  | uint32 => "UInt32"
  | uint64 => "UInt64"
  | float16 => "Float16"
  | date64 => "Date64"
  | utf8View => "Utf8View"
  | binaryView => "BinaryView"
  | time32 unit => applied "Time32" (describeUnit unit)
  | time64 unit => applied "Time64" (describeUnit unit)
  | duration unit => applied "Duration" (describeUnit unit)
  | interval unit => applied "Interval" unit.describe
  | decimal128 precision scale => describeDecimal "Decimal128" precision scale
  | decimal256 precision scale => describeDecimal "Decimal256" precision scale
  | fixedSizeBinary size => applied "FixedSizeBinary" (Text.intText size)

end Foreign

mutual

def ArrowType.describe : ArrowType → String
  | .bool => "Boolean"
  | .int32 => "Int32"
  | .int64 => "Int64"
  | .float32 => "Float32"
  | .float64 => "Float64"
  | .date32 => "Date32"
  | .timestamp unit none => applied "Timestamp" (describeUnit unit ++ ", None")
  | .timestamp unit (some zone) =>
    applied "Timestamp" (describeUnit unit ++ ", " ++ applied "Some" (Text.quoted zone))
  | .utf8 size => sized size "Utf8"
  | .binary size => sized size "Binary"
  | .list size item => applied (sized size "List") item.describe
  | .struct fields => applied "Struct" ("[" ++ ", ".intercalate (describeFields fields) ++ "]")
  | .foreign type => type.describe
  | .dictionary key value => applied "Dictionary" (key.describe ++ ", " ++ value.describe)

def ArrowField.describe : ArrowField → String
  | ⟨name, type, nullable, metadata⟩ =>
    "Field \x7b name: " ++ Text.quoted name ++ ", data_type: " ++ type.describe ++
      ", nullable: " ++ (if nullable then "true" else "false") ++
      ", dict_id: 0, dict_is_ordered: false, metadata: " ++ describeMetadata metadata ++ " \x7d"

def describeFields : List ArrowField → List String
  | [] => []
  | f :: rest => f.describe :: describeFields rest

end

end Arrow
end Ingest
