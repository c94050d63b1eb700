import Ingest.Proofs.BigQuery.RoundTrip
import Ingest.Proofs.Mapping

/-!
# The rules of the BigQuery mapper

The rules for lists and records ask the mapper for their parts and tell it, by an entry of the
metadata, what these are parts of. `toColumn` is what the rules amount to (`rules_eq_toColumn`).
-/

namespace Ingest
namespace BigQuery

open MappingRule

/-! ## The rules -/

/-- The metadata of a part of a list or of a record. -/
def inside (parent : String) : Metadata :=
  (∅ : Metadata).insert parentKey parent

def listRule (self : NeutralType → Outcome ColumnType) (t : NeutralType) :
    Outcome (Option ColumnType) :=
  match t.type with
  | .list (.list inner) => unsupported (DataType.list inner).text
  | .list element => ((self ⟨element, false, inside "array"⟩).map ColumnType.repeated).map some
  | _ => .ok none

/-- The record of the columns of its members; their metadata do not matter. -/
def recordOf (self : NeutralType → Outcome ColumnType) (members : List Field) :
    Outcome ColumnType :=
  match members.find? fun f => !f.type.isScalar with
  | some bad => unsupported bad.type.text
  | none => do
    let columns ← members.mapM fun f =>
      (self ⟨f.type, f.nullable, inside "struct"⟩).map fun c => (f.name, c)
    return ⟨.record, .nullable, columns.map fun c => c.2.toFieldSchema c.1 none,
      .struct (columns.map fun c => (c.1, c.2.formatter))⟩

/-- Refuses records that are not said to stand inside a list. -/
def recordRule (self : NeutralType → Outcome ColumnType) (t : NeutralType) :
    Outcome (Option ColumnType) :=
  match t.type with
  | .struct members =>
    if insideList t.metadata then (recordOf self members).map some else unsupported t.type.text
  | _ => .ok none

def nullRule (self : NeutralType → Outcome ColumnType) (t : NeutralType) :
    Outcome (Option ColumnType) :=
  if !t.nullable then .ok none
  else ((self { t with nullable := false }).map ColumnType.optional).map some

def scalarRule (t : NeutralType) : Outcome (Option ColumnType) :=
  match t.type with
  | .scalar .binary => .ok none
  | .scalar s => (scalarColumn s).map some
  | _ => .ok none

/-- The rules of the mapper in order. -/
def rules : Rules ColumnType := fun self =>
  [listRule self, recordRule self, nullRule self, scalarRule]

/-! ## What the rules amount to -/

/-- How often the rules refer to the mapper for a type, at most. -/
def size (t : NeutralType) : Nat :=
  (match t.type with
    | .scalar _ => 0
    | .struct _ => 2
    | .list _ => 3) + if t.nullable then 1 else 0

section Equations

variable (nullable : Bool) (metadata : Metadata)

theorem toColumn_list (element : DataType) :
    toColumn ⟨.list element, nullable, metadata⟩ =
      (elementColumn element).map ColumnType.repeated := rfl

theorem toColumn_struct (members : List Field) :
    toColumn ⟨.struct members, nullable, metadata⟩ =
      if insideList metadata then recordColumn members
      else unsupported (DataType.struct members).text := rfl

theorem toColumn_scalar (s : Scalar) :
    toColumn ⟨.scalar s, nullable, metadata⟩ = scalarOrNullColumn s nullable := rfl

end Equations

theorem insideList_inside : insideList (inside "array") = true := by
  simp [insideList, inside, Metadata.get?_insert]

theorem scalarOrNullColumn_required (s : Scalar) :
    scalarOrNullColumn s false = scalarColumn s := by
  rw [scalarOrNullColumn]
  cases scalarColumn s <;> rfl

/-- The elements of a list are mapped inside a list, unless they are lists. -/
theorem elementColumn_eq {element : DataType} (helement : element.isList = false) :
    elementColumn element = toColumn ⟨element, false, inside "array"⟩ := by
  cases element with
  | list inner => cases helement
  | scalar s => exact (scalarOrNullColumn_required s).symm
  | struct members =>
    rw [toColumn_struct, if_pos insideList_inside, elementColumn]

theorem recordOf_eq {self : NeutralType → Outcome ColumnType} {members : List Field}
    (hself : ∀ s nullable, self ⟨.scalar s, nullable, inside "struct"⟩ =
      toColumn ⟨.scalar s, nullable, inside "struct"⟩) :
    recordOf self members = recordColumn members := by
  unfold recordOf recordColumn
  cases hbad : members.find? fun f => !f.type.isScalar with
  | some bad => rfl
  | none =>
    have hmember : ∀ f ∈ members,
        (self ⟨f.type, f.nullable, inside "struct"⟩).map (fun c => (f.name, c)) =
          memberColumn f := by
      intro f hf
      have hscalar := List.find?_eq_none.1 hbad f hf
      cases htype : f.type with
      | scalar s => rw [hself, memberColumn, htype, toColumn_scalar]
      | _ => simp [htype, DataType.isScalar] at hscalar
    simp only [Outcome.mapM_congr hmember]

/-- For every type exactly one rule decides, and it gives what `toColumn` does. -/
theorem rules_eq_toColumn (self : NeutralType → Outcome ColumnType) (t : NeutralType)
    (hself : ∀ u, size u < size t → self u = toColumn u) :
    firstApplicable (.unsupportedMapping t.type.text mapperName) t (rules self) = toColumn t := by
  rcases t with ⟨type, nullable, metadata⟩
  unfold rules
  cases type with
  | list element =>
    apply firstApplicable_of_some
    have hpart : ∀ metadata', element.isList = false →
        self ⟨element, false, metadata'⟩ = toColumn ⟨element, false, metadata'⟩ := by
      intro metadata' helement
      apply hself
      cases element <;> simp_all [size, DataType.isList] <;> omega
    cases element with
    | list inner => rfl
    | scalar s =>
      rw [toColumn_list, elementColumn_eq rfl, ← hpart _ rfl]
      rfl
    | struct members =>
      rw [toColumn_list, elementColumn_eq rfl, ← hpart _ rfl]
      rfl
  | struct members =>
    have hlist : listRule self ⟨.struct members, nullable, metadata⟩ = .ok none := rfl
    rw [firstApplicable_of_none hlist]
    apply firstApplicable_of_some
    have hrecord : recordOf self members = recordColumn members := by
      apply recordOf_eq
      intro s null
      apply hself
      cases null <;> simp [size] <;> omega
    rw [toColumn_struct, ← hrecord]
    by_cases hinside : insideList metadata
    · rw [if_pos hinside]
      exact if_pos hinside
    · rw [if_neg hinside]
      exact if_neg hinside
  | scalar s =>
    have hlist : listRule self ⟨.scalar s, nullable, metadata⟩ = .ok none := rfl
    have hrecord : recordRule self ⟨.scalar s, nullable, metadata⟩ = .ok none := rfl
    rw [firstApplicable_of_none hlist, firstApplicable_of_none hrecord]
    cases nullable with
    | true =>
      apply firstApplicable_of_some
      have hinner : self ⟨.scalar s, false, metadata⟩ = scalarColumn s :=
        (hself _ (by simp [size])).trans (scalarOrNullColumn_required s)
      exact congrArg (fun o : Outcome ColumnType => (o.map ColumnType.optional).map some) hinner
    | false =>
      have hnull : nullRule self ⟨.scalar s, false, metadata⟩ = .ok none := rfl
      rw [firstApplicable_of_none hnull, toColumn_scalar, scalarOrNullColumn_required]
      cases s with
      | binary => rfl
      | _ =>
        apply firstApplicable_of_some
        rfl

end BigQuery
end Ingest
