import Ingest.Arrow.Basic
import Ingest.Schema.Basic

/-!
# Arrow schemas and neutral schemas

Every neutral schema has an Arrow form. An Arrow schema has a neutral form if none of its types is
foreign and no name occurs twice; large variants and regular ones have the same neutral form.
-/

namespace Ingest
namespace Arrow

def mapperName : String := "arrow"

def unsupported {α : Type} (t : ArrowType) : Outcome α :=
  .error (.unsupportedMapping t.describe mapperName)

/-! ## From neutral types -/

def ofScalar : Scalar → ArrowType
  | .string => .utf8 .regular
  | .bool => .bool
  | .int32 => .int32
  | .int64 => .int64
  | .float32 => .float32
  | .float64 => .float64
  | .date32 => .date32
  | .timestamp unit zone => .timestamp unit zone
  | .binary => .binary .regular

/-- The field of the items of a list, of which neutral types know only the type. -/
def itemField (type : ArrowType) : ArrowField :=
  ⟨"item", type, true, ∅⟩

mutual

def ofDataType : DataType → ArrowType
  | .scalar s => ofScalar s
  | .list element => .list .regular (itemField (ofDataType element))
  | .struct fields => .struct (ofFields fields)

def ofFields : List Field → List ArrowField
  | [] => []
  | ⟨name, type, nullable, metadata⟩ :: rest =>
    ⟨name, ofDataType type, nullable, metadata⟩ :: ofFields rest

end

def ofSchema (s : Schema) : ArrowSchema :=
  ⟨ofFields s.fields, ∅⟩

/-! ## To neutral types -/

mutual

def ArrowType.toDataType : ArrowType → Outcome DataType
  | .bool => .ok (.scalar .bool)
  | .int32 => .ok (.scalar .int32)
  | .int64 => .ok (.scalar .int64)
  | .float32 => .ok (.scalar .float32)
  | .float64 => .ok (.scalar .float64)
  | .date32 => .ok (.scalar .date32)
  | .timestamp unit zone => .ok (.scalar (.timestamp unit zone))
  | .utf8 _ => .ok (.scalar .string)
  | .binary _ => .ok (.scalar .binary)
  | .list _ ⟨_, type, _, _⟩ => type.toDataType.map .list
  | .struct fields => (toFields fields).map .struct
  | .foreign type => unsupported (.foreign type)
  | .dictionary key value => unsupported (.dictionary key value)

def toFields : List ArrowField → Outcome (List Field)
  | [] => .ok []
  | ⟨name, type, nullable, metadata⟩ :: rest => do
    let t ← type.toDataType
    let fields ← toFields rest
    return ⟨name, t, nullable, metadata⟩ :: fields

end

def ArrowSchema.toSchema (s : ArrowSchema) : Outcome Schema := do
  Schema.ofFields (← toFields s.fields)

end Arrow
end Ingest
