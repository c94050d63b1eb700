import Ingest.Calendar.Instant
import Ingest.Dict
import Ingest.Floating.Binary

/-!
# Values

The values of rows. Floating-point numbers are bit patterns; the members of a record are kept in
the order of their names. `Value.equal` compares values as numbers compare: what is no number
equals nothing and the two zeros are equal.
-/

namespace Ingest

/-- A value of a column. -/
inductive Value where
  | null
  | bool (b : Bool)
  | int32 (n : Int32)
  | int64 (n : Int64)
  | float32 (bits : UInt32)
  | float64 (bits : UInt64)
  | string (s : String)
  | binary (bytes : List UInt8)
  | date (d : Calendar.Date)
  | timestamp (t : Calendar.Instant)
  | list (items : List Value)
  | struct (members : List (String × Value))

/-- The values of a row by column, in the order of the columns' names. -/
abbrev Row := List (String × Value)

namespace Value

instance : Inhabited Value := ⟨null⟩

/-- Whether a value is null. -/
def isNull : Value → Bool
  | null => true
  | _ => false

def kind : Value → String
  | null => "null"
  | bool _ => "bool"
  | int32 _ => "int32"
  | int64 _ => "int64"
  | float32 _ => "float32"
  | float64 _ => "float64"
  | string _ => "string"
  | binary _ => "binary"
  | date _ => "date"
  | timestamp _ => "timestamp"
  | list _ => "list"
  | struct _ => "struct"

/-- The value of an optional one: null stands for none. -/
def ofOption : Option Value → Value
  | some v => v
  | none => null

/-- The number of a bit pattern of the 32-bit format. -/
def number32 (bits : UInt32) : Floating.Number :=
  Floating.single.decode bits.toNat

/-- The number of a bit pattern of the 64-bit format. -/
def number64 (bits : UInt64) : Floating.Number :=
  Floating.double.decode bits.toNat

mutual

/-- Whether two values are equal; values of different kinds never are. -/
def equal : Value → Value → Bool
  | null, null => true
  | bool a, bool b => a == b
  | int32 a, int32 b => a == b
  | int64 a, int64 b => a == b
  | float32 a, float32 b => (number32 a).equal (number32 b)
  | float64 a, float64 b => (number64 a).equal (number64 b)
  | string a, string b => a == b
  | binary a, binary b => a == b
  | date a, date b => a == b
  | timestamp a, timestamp b => a == b
  | list as, list bs => equalItems as bs
  | struct as, struct bs => equalMembers as bs
  | _, _ => false

def equalItems : List Value → List Value → Bool
  | [], [] => true
  | a :: as, b :: bs => a.equal b && equalItems as bs
  | _, _ => false

def equalMembers : List (String × Value) → List (String × Value) → Bool
  | [], [] => true
  | (k, a) :: as, (l, b) :: bs => k == l && a.equal b && equalMembers as bs
  | _, _ => false

end

end Value

namespace Row

/-- The value of a column; a column without a value is null. -/
def value (row : Row) (column : String) : Value :=
  Value.ofOption (Dict.get? row column)

end Row
end Ingest
