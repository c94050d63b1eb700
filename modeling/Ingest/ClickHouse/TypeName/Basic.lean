import Ingest.Text.Digits

/-!
# ClickHouse type names

The types of ClickHouse columns as terms, and their written form. A type that the library gives
no meaning to keeps its text.
-/

namespace Ingest
namespace ClickHouse

/-- The type of a ClickHouse column. -/
inductive TypeName where
  /-- A type without parameters. -/
  | named (name : String)
  /-- A timestamp with a number of decimal places and an optional zone. -/
  | dateTime64 (precision : Nat) (zone : Option String)
  | array (element : TypeName)
  | nullable (inner : TypeName)
  | lowCardinality (inner : TypeName)
  /-- Parallel arrays under one name. -/
  | nested (columns : List (String × TypeName))
  /-- Any other type with parameters, as text. -/
  | other (text : String)

namespace TypeName

instance : Inhabited TypeName := ⟨named ""⟩

mutual

def chars : TypeName → List Char
  | named name => name.toList
  | dateTime64 precision none => "DateTime64(".toList ++ Text.digits precision ++ [')']
  | dateTime64 precision (some zone) =>
    "DateTime64(".toList ++ Text.digits precision ++ ", '".toList ++ zone.toList ++ "')".toList
  | array element => "Array(".toList ++ element.chars ++ [')']
  | nullable inner => "Nullable(".toList ++ inner.chars ++ [')']
  | lowCardinality inner => "LowCardinality(".toList ++ inner.chars ++ [')']
  | nested columns => "Nested(".toList ++ columnChars columns ++ [')']
  | other text => text.toList

/-- Names and types separated by commas. -/
def columnChars : List (String × TypeName) → List Char
  | [] => []
  | [(name, type)] => name.toList ++ ' ' :: type.chars
  | (name, type) :: next :: rest =>
    name.toList ++ ' ' :: type.chars ++ ',' :: ' ' :: columnChars (next :: rest)

end

def text (t : TypeName) : String :=
  String.ofList t.chars

/-! ## Equality -/

mutual

def same : TypeName → TypeName → Bool
  | named a, named b => a == b
  | dateTime64 p z, dateTime64 q w => p == q && z == w
  | array a, array b => a.same b
  | nullable a, nullable b => a.same b
  | lowCardinality a, lowCardinality b => a.same b
  | nested as, nested bs => sameColumns as bs
  | other a, other b => a == b
  | _, _ => false

def sameColumns : List (String × TypeName) → List (String × TypeName) → Bool
  | [], [] => true
  | (n, a) :: as, (m, b) :: bs => n == m && a.same b && sameColumns as bs
  | _, _ => false

end

mutual

theorem same_iff_eq : (a b : TypeName) → (a.same b = true ↔ a = b)
  | named a, b => by cases b <;> simp [same]
  | dateTime64 p z, b => by cases b <;> simp [same]
  | array a, .array b => by simp [same, same_iff_eq a b]
  | nullable a, .nullable b => by simp [same, same_iff_eq a b]
  | lowCardinality a, .lowCardinality b => by simp [same, same_iff_eq a b]
  | nested as, .nested bs => by simp [same, sameColumns_iff_eq as bs]
  | other a, b => by cases b <;> simp [same]
  | array a, .named _ | array a, .dateTime64 _ _ | array a, .nullable _
  | array a, .lowCardinality _ | array a, .nested _ | array a, .other _ => by simp [same]
  | nullable a, .named _ | nullable a, .dateTime64 _ _ | nullable a, .array _
  | nullable a, .lowCardinality _ | nullable a, .nested _ | nullable a, .other _ => by simp [same]
  | lowCardinality a, .named _ | lowCardinality a, .dateTime64 _ _ | lowCardinality a, .array _
  | lowCardinality a, .nullable _ | lowCardinality a, .nested _
  | lowCardinality a, .other _ => by simp [same]
  | nested as, .named _ | nested as, .dateTime64 _ _ | nested as, .array _
  | nested as, .nullable _ | nested as, .lowCardinality _ | nested as, .other _ => by simp [same]

theorem sameColumns_iff_eq : (as bs : List (String × TypeName)) →
    (sameColumns as bs = true ↔ as = bs)
  | [], bs => by cases bs <;> simp [sameColumns]
  | (n, a) :: as, [] => by simp [sameColumns]
  | (n, a) :: as, (m, b) :: bs => by
    simp [sameColumns, same_iff_eq a b, sameColumns_iff_eq as bs]

end

instance : DecidableEq TypeName := fun a b =>
  decidable_of_iff _ (same_iff_eq a b)

end TypeName
end ClickHouse
end Ingest
