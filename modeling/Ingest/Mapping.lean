import Ingest.Format.Formatter
import Ingest.Schema.Basic

/-!
# Type mappers

A mapper gives neutral types their column types in a warehouse and back. `ofRules` builds
one from rules that are tried in order; the first rule that applies decides, also by failing.
Composite rules refer to the whole mapper by a handle, which can outlive it.
-/

namespace Ingest

/-- What the library asks of the column types of a warehouse. -/
class WarehouseType (W : Type) where
  /-- The name of a column type. -/
  typeName : W → String
  /-- The formatter of the values of a column. -/
  format : W → Formatter

/-- Which neutral types and column types of a warehouse belong together. -/
structure TypeMapper (W : Type) where
  name : String
  toWarehouse : NeutralType → Outcome W
  toNeutral : W → Outcome NeutralType

/-- A part of a mapper; `none` means that it does not apply. -/
structure MappingRule (W : Type) where
  toWarehouse : NeutralType → Outcome (Option W)
  toNeutral : W → Outcome (Option NeutralType)

namespace MappingRule

/-- The result of the first rule that applies. -/
def firstApplicable {α β : Type} (missing : Failure) (a : α) :
    List (α → Outcome (Option β)) → Outcome β
  | [] => .error missing
  | rule :: rest => do
    match ← rule a with
    | some b => return b
    | none => firstApplicable missing a rest

end MappingRule

namespace TypeMapper

variable {W : Type} [WarehouseType W]

/-- The mapper of a list of rules. A type to which none applies is reported as a whole. -/
def ofRules (name : String) (rules : List (MappingRule W)) : TypeMapper W where
  name := name
  toWarehouse t :=
    MappingRule.firstApplicable (.unsupportedMapping t.type.text name) t
      (rules.map (·.toWarehouse))
  toNeutral w :=
    MappingRule.firstApplicable (.unsupportedMapping (WarehouseType.typeName w) name) w
      (rules.map (·.toNeutral))

/-- Refers to a mapper; empty when the mapper is gone. -/
abbrev Handle (W : Type) := Option (TypeMapper W)

/-- The mapper behind a handle. Without one nothing can be mapped. -/
def Handle.resolve {W : Type} (h : Handle W) : TypeMapper W :=
  h.getD
    { name := ""
      toWarehouse := fun _ => .error (.internal "type mapper was dropped")
      toNeutral := fun _ => .error (.internal "type mapper was dropped") }

end TypeMapper
end Ingest
