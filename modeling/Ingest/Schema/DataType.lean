import Ingest.Metadata
import Ingest.Text.Digits

/-!
# Column types

The neutral types of columns: scalars, lists of a type and records of named fields. They describe
tables independently of a warehouse. Equality of types is decidable.
-/

namespace Ingest

/-- The resolution of a timestamp. -/
inductive TimeUnit where
  | second
  | millisecond
  | microsecond
  | nanosecond
  deriving DecidableEq, Repr

namespace TimeUnit

/-- The symbol of the unit. -/
def symbol : TimeUnit → String
  | second => "s"
  | millisecond => "ms"
  | microsecond => "us"
  | nanosecond => "ns"

def precision : TimeUnit → Nat
  | second => 0
  | millisecond => 3
  | microsecond => 6
  | nanosecond => 9

/-- The unit with a number of decimal places. -/
def ofPrecision? (n : Nat) : Option TimeUnit :=
  match n with
  | 0 => some second
  | 3 => some millisecond
  | 6 => some microsecond
  | 9 => some nanosecond
  | _ => none

theorem ofPrecision?_precision (u : TimeUnit) : ofPrecision? u.precision = some u := by
  cases u <;> rfl

end TimeUnit

/-- The types of values without parts. -/
inductive Scalar where
  | string
  | bool
  | int32
  | int64
  | float32
  | float64
  | date32
  | timestamp (unit : TimeUnit) (zone : Option String)
  | binary
  deriving DecidableEq, Repr

mutual

/-- The type of a column. -/
inductive DataType where
  | scalar (s : Scalar)
  | list (element : DataType)
  | struct (fields : List Field)

/-- A named column or member of a record. -/
structure Field where
  name : String
  type : DataType
  nullable : Bool
  metadata : Metadata

end

namespace Scalar

def text : Scalar → String
  | string => "string"
  | bool => "bool"
  | int32 => "int32"
  | int64 => "int64"
  | float32 => "float32"
  | float64 => "float64"
  | date32 => "date32"
  | timestamp unit none => "timestamp[" ++ unit.symbol ++ "]"
  | timestamp unit (some zone) => "timestamp[" ++ unit.symbol ++ ", tz=" ++ zone ++ "]"
  | binary => "binary"

def family : Scalar → String
  | string => "STRING"
  | bool => "BOOL"
  | int32 => "INT32"
  | int64 => "INT64"
  | float32 => "FLOAT32"
  | float64 => "FLOAT64"
  | date32 => "DATE32"
  | timestamp _ _ => "TIMESTAMP"
  | binary => "BINARY"

end Scalar

/-! ## Parts of a type -/

/-- A property of types is shown part by part. -/
theorem DataType.induction {P : DataType → Prop} (scalar : ∀ s, P (.scalar s))
    (list : ∀ element, P element → P (.list element))
    (struct : ∀ fields, (∀ f ∈ fields, P f.type) → P (.struct fields)) (t : DataType) : P t :=
  match t with
  | .scalar s => scalar s
  | .list element => list element (DataType.induction scalar list struct element)
  | .struct fields => struct fields fun f _ => DataType.induction scalar list struct f.type
termination_by sizeOf t
decreasing_by
  · simp
  · rename_i hf
    have hmem := List.sizeOf_lt_of_mem hf
    have htype : sizeOf f.type < sizeOf f := by
      cases f
      simp
      omega
    simp
    omega

/-! ## Text of a type -/

mutual

def DataType.text : DataType → String
  | .scalar s => s.text
  | .list element => "list<" ++ element.text ++ ">"
  | .struct fields => "struct<" ++ fieldsText fields ++ ">"

/-- The members of a record type, separated by commas. -/
def fieldsText : List Field → String
  | [] => ""
  | [⟨name, type, _, _⟩] => name ++ ": " ++ type.text
  | ⟨name, type, _, _⟩ :: f :: rest => name ++ ": " ++ type.text ++ ", " ++ fieldsText (f :: rest)

end

/-! ## Equality of types -/

mutual

/-- Whether two types are the same, with the names, nullability and metadata of all fields. -/
def DataType.same : DataType → DataType → Bool
  | .scalar a, .scalar b => a == b
  | .list a, .list b => a.same b
  | .struct as, .struct bs => sameFields as bs
  | _, _ => false

def sameFields : List Field → List Field → Bool
  | [], [] => true
  | ⟨n, t, b, m⟩ :: as, ⟨n', t', b', m'⟩ :: bs =>
    n == n' && t.same t' && b == b' && m == m' && sameFields as bs
  | _, _ => false

end

mutual

theorem DataType.same_iff_eq : (a b : DataType) → (a.same b = true ↔ a = b)
  | .scalar a, b => by cases b <;> simp [DataType.same]
  | .list a, .list b => by simp [DataType.same, DataType.same_iff_eq a b]
  | .list a, .scalar s => by simp [DataType.same]
  | .list a, .struct fs => by simp [DataType.same]
  | .struct as, .struct bs => by simp [DataType.same, sameFields_iff_eq as bs]
  | .struct as, .scalar s => by simp [DataType.same]
  | .struct as, .list b => by simp [DataType.same]

theorem sameFields_iff_eq : (as bs : List Field) → (sameFields as bs = true ↔ as = bs)
  | [], bs => by cases bs <;> simp [sameFields]
  | ⟨n, t, b, m⟩ :: as, [] => by simp [sameFields]
  | ⟨n, t, b, m⟩ :: as, ⟨n', t', b', m'⟩ :: bs => by
    simp [sameFields, DataType.same_iff_eq t t', sameFields_iff_eq as bs, and_assoc]

end

instance : DecidableEq DataType := fun a b =>
  decidable_of_iff _ (DataType.same_iff_eq a b)

instance : DecidableEq Field := fun a b =>
  decidable_of_iff (sameFields [a] [b] = true) (by simp [sameFields_iff_eq])

instance : Inhabited DataType := ⟨.scalar .string⟩

namespace DataType

def family : DataType → String
  | scalar s => s.family
  | list _ => "LIST"
  | struct _ => "STRUCT"

def isScalar : DataType → Bool
  | scalar _ => true
  | _ => false

def isList : DataType → Bool
  | list _ => true
  | _ => false

def isStruct : DataType → Bool
  | struct _ => true
  | _ => false

def element? : DataType → Option DataType
  | list element => some element
  | _ => none

def fields? : DataType → Option (List Field)
  | struct fields => some fields
  | _ => none

end DataType
end Ingest
