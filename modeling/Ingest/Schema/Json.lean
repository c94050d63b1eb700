import Ingest.Json.Basic
import Ingest.Schema.Basic

/-!
# Schemas as JSON

A type is an object whose member "kind" names it; a field is an object with name, type,
nullability and, unless there is none, metadata; a schema is the array of its fields. Types and
fields are also read from arrays: the kind first, or the parts of a field in this order. Reading
ignores members it does not know and refuses known ones that stand twice. The kind of a type inside
another type may also be given by its number.

A value may be nested to any depth here. How deep a text may be nested before it is not read as a
value any more is left out.
-/

namespace Ingest

namespace TimeUnit

/-- The name of a unit. -/
def name : TimeUnit → String
  | second => "second"
  | millisecond => "millisecond"
  | microsecond => "microsecond"
  | nanosecond => "nanosecond"

/-- The unit of a name. -/
def named? : String → Option TimeUnit
  | "second" => some second
  | "millisecond" => some millisecond
  | "microsecond" => some microsecond
  | "nanosecond" => some nanosecond
  | _ => none

/-- Reads a unit that stands alone. -/
def ofJson? (j : Json) : Option TimeUnit :=
  (j.asChoice? Json.isNull).bind named?

/-- Reads the unit of a timestamp type. -/
def ofMember? (j : Json) : Option TimeUnit :=
  (j.asChoice? Json.isNullOrEmpty).bind named?

theorem named?_name (u : TimeUnit) : named? u.name = some u := by
  cases u <;> rfl

end TimeUnit

namespace Metadata

def toJson (m : Metadata) : Json :=
  .object (m.entries.map fun e => (e.1, .string e.2))

def ofJson? (j : Json) : Option Metadata := do
  let members ← j.asObject?
  let entries ← members.mapM fun e => e.2.asString?.map fun s => (e.1, s)
  return ofList entries

end Metadata

/-! ## Writing -/

namespace Scalar

def toJson : Scalar → Json
  | timestamp unit none =>
    .object [("kind", .string "timestamp"), ("unit", .string unit.name)]
  | timestamp unit (some zone) =>
    .object [("kind", .string "timestamp"), ("timezone", .string zone),
      ("unit", .string unit.name)]
  | s => .object [("kind", .string s.text)]

end Scalar

mutual

def DataType.toJson : DataType → Json
  | .scalar s => s.toJson
  | .list element => .object [("element", element.toJson), ("kind", .string "list")]
  | .struct fields => .object [("fields", .array (fieldsToJson fields)), ("kind", .string "struct")]

/-- The objects of fields; metadata are written only where there are some. -/
def fieldsToJson : List Field → List Json
  | [] => []
  | ⟨name, type, nullable, metadata⟩ :: rest =>
    .object (("data_type", type.toJson) ::
      (if metadata.isEmpty then [] else [("metadata", metadata.toJson)]) ++
      [("name", .string name), ("nullable", .bool nullable)]) :: fieldsToJson rest

end

namespace Field

def toJson (f : Field) : Json :=
  match fieldsToJson [f] with
  | j :: _ => j
  | [] => .null

end Field

namespace Schema

def toJson (s : Schema) : Json :=
  .array (fieldsToJson s.fields)

end Schema

/-! ## Reading -/

/-- The scalar of a kind that says everything. -/
def Scalar.plain? : String → Option Scalar
  | "string" => some .string
  | "bool" => some .bool
  | "int32" => some .int32
  | "int64" => some .int64
  | "float32" => some .float32
  | "float64" => some .float64
  | "date32" => some .date32
  | "binary" => some .binary
  | _ => none

/-- Reads a scalar of a kind from what stands beside the kind. -/
def Scalar.ofContent? (kind : String) (content : Json) : Option Scalar :=
  if kind = "timestamp" then do
    let r ← content.record? ["unit", "timezone"]
    let unit ← r.required "unit" TimeUnit.ofMember?
    let zone ← r.optional "timezone" Json.asString?
    return .timestamp unit zone
  else do
    let _ ← content.record? []
    plain? kind

/-- The names of the kinds of types, in the order of their numbers. -/
def kindNames : List String :=
  ["string", "bool", "int32", "int64", "float32", "float64", "date32", "timestamp", "binary",
    "list", "struct"]

/-- Where a type stands: alone or as the type of a field, or inside another type. -/
inductive Place where
  | outermost
  | inside
  deriving DecidableEq, Repr

/-- The name of a kind. Inside another type the number of the kind may stand for it. -/
def kindName? (place : Place) : Json → Option String
  | .string name => some name
  | .int n => if place = .inside ∧ 0 ≤ n then kindNames[n.toNat]? else none
  | _ => none

mutual

/-- Reads a type that stands at a place. -/
def DataType.read? (place : Place) (j : Json) : Option DataType :=
  match _htag : j.tagged? "kind" with
  | none => none
  | some (tag, content) =>
    match kindName? place tag with
    | none => none
    | some kind =>
      if kind = "list" then
        match _hrecord : content.record? ["element"] with
        | none => none
        | some r =>
          match _h : r.member? "element" with
          | none => none
          | some element => (DataType.read? .inside element).map .list
      else if kind = "struct" then
        match _hrecord : content.record? ["fields"] with
        | none => none
        | some r =>
          match _h : r.member? "fields" with
          | some (.array items) => (readFields? .inside items).map .struct
          | _ => none
      else (Scalar.ofContent? kind content).map .scalar
termination_by sizeOf j
decreasing_by
  · have := Json.sizeOf_lt_of_record? _hrecord _h
    have := Json.sizeOf_le_of_tagged? _htag
    omega
  · have := Json.sizeOf_lt_of_record? _hrecord _h
    have := Json.sizeOf_le_of_tagged? _htag
    simp at *
    omega

/-- Reads fields whose types stand at a place. -/
def readFields? (place : Place) (items : List Json) : Option (List Field) :=
  match items with
  | [] => some []
  | item :: rest =>
    match _hrecord : item.record? ["name", "data_type", "nullable", "metadata"] with
    | none => none
    | some r =>
      match _h : r.member? "data_type" with
      | none => none
      | some type => do
        let name ← r.required "name" Json.asString?
        let type ← DataType.read? place type
        let nullable ← r.required "nullable" Json.asBool?
        let metadata ← r.defaulted "metadata" ∅ Metadata.ofJson?
        let others ← readFields? place rest
        return ⟨name, type, nullable, metadata⟩ :: others
termination_by sizeOf items
decreasing_by
  · have := Json.sizeOf_lt_of_record? _hrecord _h
    simp only [List.cons.sizeOf_spec]
    omega
  · simp only [List.cons.sizeOf_spec]
    omega

end

def DataType.ofJson? (j : Json) : Option DataType :=
  DataType.read? .outermost j

def fieldsOfJson? (items : List Json) : Option (List Field) :=
  readFields? .outermost items

namespace Field

def ofJson? (j : Json) : Option Field :=
  (fieldsOfJson? [j]).bind (·.head?)

def listOfJson? (j : Json) : Option (List Field) :=
  j.asArray?.bind fieldsOfJson?

end Field

namespace Schema

/-- Reads a schema; a name that occurs again is refused. -/
def ofJson? (j : Json) : Option Schema :=
  (Field.listOfJson? j).bind fun fields => (ofFields fields).toOption

end Schema
end Ingest
