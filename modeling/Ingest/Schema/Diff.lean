import Ingest.Schema.Basic
import Ingest.Schema.Compare

/-!
# Missing columns

The fields of an incoming schema that a table does not have yet. A field that the table has must
fit: a checker says in what way it does not.
-/

namespace Ingest

/-- Says why an existing field cannot take the values of an incoming one, if it cannot. -/
abbrev FieldChecker := Field → Field → Option String

abbrev FieldIndex := String → Option Field

/-- Looks fields up by name; of two with one name the later counts. -/
def indexFields (fields : List Field) : FieldIndex := fun name =>
  fields.reverse.find? fun f => f.name == name

namespace FieldChecker

/-- Nullability must agree, except where a list takes part, and types must agree up to rules. -/
def strictNullability (rules : List CompatibilityRule) : FieldChecker := fun existing input =>
  if !(existing.type.isList || input.type.isList) && existing.nullable != input.nullable then
    some ("nullability differs - existing: " ++ boolText existing.nullable ++ ", input: " ++
      boolText input.nullable)
  else
    (mismatch rules existing.type input.type).map fun m => m.message existing.name

end FieldChecker

def absentFields (existing : FieldIndex) (incoming : Schema) : List Field :=
  incoming.fields.filter fun f => (existing f.name).isNone

/-- An entry for each incoming field that does not fit the field the table has. -/
def conflicts (table : String) (existing : FieldIndex) (checker : FieldChecker)
    (incoming : Schema) : List Incompatibility :=
  incoming.fields.filterMap fun f => do
    let current ← existing f.name
    let detail ← checker current f
    return ⟨table, f.name, current.type.text, f.type.text, some detail⟩

/-- The incoming fields that the table does not have, unless some field does not fit. -/
def missingColumns (table : String) (existing : FieldIndex) (checker : FieldChecker)
    (incoming : Schema) : Outcome (List Field) :=
  match conflicts table existing checker incoming with
  | [] => .ok (absentFields existing incoming)
  | entries => .error (.multipleTypeIncompatible table entries)

end Ingest
