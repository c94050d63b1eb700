import Ingest.Proofs.ClickHouse.Wire
import Ingest.Proofs.Dict
import Ingest.Proofs.Mapping

/-!
# The rules of the ClickHouse mapper

Each of the rules does a part of the work and asks the whole mapper for a smaller type: one without
a list, without null or without the flag. `toColumn` is what the rules amount to, whatever
combination of them a type needs (`rules_eq_toColumn`).
-/

namespace Ingest
namespace ClickHouse

open MappingRule

variable {zones : Calendar.ZoneDatabase}

/-! ## The rules -/

/-- The columns of a nested column are those of its members; their metadata do not matter. -/
def nestedOf (self : NeutralType → Outcome ColumnType) (fields : List Field) :
    Outcome ColumnType :=
  match fields.find? fun f => (nestable f.type).isNone with
  | some bad => unsupported bad.type.text
  | none => do
    let columns ← fields.mapM fun f => (self ⟨f.type, f.nullable, ∅⟩).map fun c => (f.name, c)
    return ⟨.nested (columns.map fun c => (c.1, c.2.type)), false, none,
      .list (.struct (columns.map fun c => (c.1, c.2.formatter)))⟩

def listRule (self : NeutralType → Outcome ColumnType) (t : NeutralType) :
    Outcome (Option ColumnType) :=
  match t.type with
  | .list (.struct fields) => (nestedOf self fields).map some
  | .list element => ((self ⟨element, false, ∅⟩).map arrayColumn).map some
  | _ => .ok none

/-- Refuses records outside of a list. -/
def recordRule (t : NeutralType) : Outcome (Option ColumnType) :=
  if t.type.isStruct then unsupported t.type.text else .ok none

/-- Stores nullable scalars as columns with a default. -/
def defaultRule (self : NeutralType → Outcome ColumnType) (t : NeutralType) :
    Outcome (Option ColumnType) :=
  if !t.nullable || t.type.isList || t.type.isStruct then .ok none
  else ((self { t with nullable := false }).map ColumnType.withDefault).map some

/-- Stores what is nullable as a nullable column; the rule before leaves nothing to it. -/
def nullableRule (self : NeutralType → Outcome ColumnType) (t : NeutralType) :
    Outcome (Option ColumnType) :=
  if !t.nullable || t.type.isList then .ok none
  else ((self { t with nullable := false }).map fun c =>
    ⟨.nullable c.type, false, none, c.formatter.nullPassthrough⟩).map some

/-- Encodes scalars by a dictionary if their metadata ask for it. -/
def dictionaryRule (self : NeutralType → Outcome ColumnType) (t : NeutralType) :
    Outcome (Option ColumnType) :=
  if t.nullable || !t.type.isScalar || !t.metadata.flag Metadata.lowCardinalityKey then .ok none
  else ((self { t with metadata := t.metadata.erase Metadata.lowCardinalityKey }).map
    ColumnType.dictionaryEncoded).map some

def scalarRule (zones : Calendar.ZoneDatabase) (t : NeutralType) : Outcome (Option ColumnType) :=
  match nestable t.type with
  | some s => (scalarColumn zones s).map some
  | none => .ok none

/-- The rules of the mapper in order. -/
def rules (zones : Calendar.ZoneDatabase) : Rules ColumnType := fun self =>
  [listRule self, recordRule, defaultRule self, nullableRule self, dictionaryRule self,
    scalarRule zones]

/-! ## What the rules amount to -/

def levels : DataType → Nat
  | .list element => levels element + 1
  | _ => 0

/-- How often the rules refer to the mapper for a type: for each list, for null and for the flag. -/
def size (t : NeutralType) : Nat :=
  3 * levels t.type + (if t.nullable then 2 else 0) +
    (if t.metadata.flag Metadata.lowCardinalityKey then 1 else 0)

theorem flag_erase (m : Metadata) (key : String) : (m.erase key).flag key = false := by
  have hnone : (m.erase key).get? key = none := Dict.get?_erase_self m.entries key
  simp [Metadata.flag, hnone]

theorem toColumn_scalar (s : Scalar) (nullable : Bool) (metadata : Metadata) :
    toColumn zones ⟨.scalar s, nullable, metadata⟩ = (scalarColumn zones s).map fun c =>
      let c := if metadata.flag Metadata.lowCardinalityKey then c.dictionaryEncoded else c
      if nullable then c.withDefault else c := rfl

theorem toColumn_plain (s : Scalar) (nullable : Bool) :
    toColumn zones ⟨.scalar s, nullable, ∅⟩ = memberColumn zones s nullable := rfl

theorem memberColumn_required (s : Scalar) :
    memberColumn zones s false = scalarColumn zones s := by
  rw [memberColumn]
  cases scalarColumn zones s <;> rfl

/-- The elements of a list are mapped like types of their own, unless they are records. -/
theorem toColumn_list {element : DataType} (helement : element.isStruct = false) {nullable : Bool}
    {metadata : Metadata} :
    toColumn zones ⟨.list element, nullable, metadata⟩ =
      (toColumn zones ⟨element, false, ∅⟩).map arrayColumn := by
  cases element with
  | struct fields => cases helement
  | list inner => rfl
  | scalar s =>
    rw [toColumn_plain, memberColumn_required]
    rfl

theorem nestedOf_eq {self : NeutralType → Outcome ColumnType} {fields : List Field}
    (hself : ∀ s nullable,
      self ⟨.scalar s, nullable, ∅⟩ = toColumn zones ⟨.scalar s, nullable, ∅⟩) :
    nestedOf self fields = nestedColumn zones fields := by
  unfold nestedOf nestedColumn
  cases hbad : fields.find? fun f => (nestable f.type).isNone with
  | some bad => rfl
  | none =>
    have hmember : ∀ f ∈ fields, (self ⟨f.type, f.nullable, ∅⟩).map (fun c => (f.name, c)) =
        partColumn zones f := by
      intro f hf
      have hnestable := List.find?_eq_none.1 hbad f hf
      cases hs : nestable f.type with
      | none => simp [hs] at hnestable
      | some s =>
        rw [eq_scalar_of_nestable hs, hself, toColumn_plain, partColumn, hs]
    simp only [Outcome.mapM_congr hmember]
    rfl

theorem size_member_lt (s : Scalar) (null : Bool) (element : DataType) (nullable : Bool)
    (metadata : Metadata) :
    size ⟨.scalar s, null, ∅⟩ < size ⟨.list element, nullable, metadata⟩ := by
  have hflag : (∅ : Metadata).flag Metadata.lowCardinalityKey = false := rfl
  simp only [size, levels, hflag]
  cases null <;> simp <;> omega

theorem size_element_lt (element : DataType) (nullable : Bool) (metadata : Metadata) :
    size ⟨element, false, ∅⟩ < size ⟨.list element, nullable, metadata⟩ := by
  have hflag : (∅ : Metadata).flag Metadata.lowCardinalityKey = false := rfl
  simp only [size, levels, hflag]
  simp
  omega

theorem size_required_lt (type : DataType) (metadata : Metadata) :
    size ⟨type, false, metadata⟩ < size ⟨type, true, metadata⟩ := by
  simp [size]

theorem size_erase_lt (type : DataType) {metadata : Metadata}
    (hflag : metadata.flag Metadata.lowCardinalityKey = true) :
    size ⟨type, false, metadata.erase Metadata.lowCardinalityKey⟩ <
      size ⟨type, false, metadata⟩ := by
  simp [size, hflag, flag_erase]

/-- Nullability declares the default of a scalar, and nothing else. -/
theorem toColumn_nullable (type : DataType) (metadata : Metadata) :
    toColumn zones ⟨type, true, metadata⟩ =
      if type.isScalar then (toColumn zones ⟨type, false, metadata⟩).map ColumnType.withDefault
      else toColumn zones ⟨type, false, metadata⟩ := by
  cases type with
  | scalar s =>
    have hscalar : (DataType.scalar s).isScalar := rfl
    rw [if_pos hscalar, toColumn_scalar, toColumn_scalar]
    cases scalarColumn zones s <;> rfl
  | _ => rfl

/-- Metadata encode a scalar by a dictionary if the flag is set, and do nothing else. -/
theorem toColumn_metadata (type : DataType) (nullable : Bool) (metadata : Metadata) :
    toColumn zones ⟨type, nullable, metadata⟩ =
      if type.isScalar ∧ metadata.flag Metadata.lowCardinalityKey then
        (toColumn zones ⟨type, nullable, ∅⟩).map ColumnType.dictionaryEncoded
      else toColumn zones ⟨type, nullable, ∅⟩ := by
  cases type with
  | scalar s =>
    by_cases hflag : metadata.flag Metadata.lowCardinalityKey
    · rw [if_pos ⟨rfl, hflag⟩, toColumn_scalar, toColumn_scalar]
      simp only [hflag]
      cases scalarColumn zones s <;> cases nullable <;> rfl
    · rw [if_neg fun h => hflag h.2, toColumn_scalar, toColumn_scalar]
      simp only [if_neg hflag]
      rfl
  | _ => rfl

/-- For every type exactly one rule decides, and it gives what `toColumn` does. -/
theorem rules_eq_toColumn (self : NeutralType → Outcome ColumnType) (t : NeutralType)
    (hself : ∀ u, size u < size t → self u = toColumn zones u) :
    firstApplicable (.unsupportedMapping t.type.text mapperName) t (rules zones self) =
      toColumn zones t := by
  rcases t with ⟨type, nullable, metadata⟩
  unfold rules
  cases type with
  | struct fields =>
    have hlist : listRule self ⟨.struct fields, nullable, metadata⟩ = .ok none := rfl
    rw [firstApplicable_of_none hlist]
    apply firstApplicable_of_some
    rfl
  | list element =>
    -- The rule for lists asks for the elements, which have one level less, or for scalars.
    apply firstApplicable_of_some
    cases element with
    | struct fields =>
      have hnested : nestedOf self fields = nestedColumn zones fields := by
        apply nestedOf_eq
        intro s null
        exact hself _ (size_member_lt s null _ nullable metadata)
      exact congrArg (Except.map some) hnested
    | list inner =>
      have hinner := hself _ (size_element_lt (.list inner) nullable metadata)
      rw [toColumn_list rfl, ← hinner]
      rfl
    | scalar s =>
      have hinner := hself _ (size_element_lt (.scalar s) nullable metadata)
      rw [toColumn_list rfl, ← hinner]
      rfl
  | scalar s =>
    have hlist : listRule self ⟨.scalar s, nullable, metadata⟩ = .ok none := rfl
    have hrecord : recordRule ⟨.scalar s, nullable, metadata⟩ = .ok none := rfl
    rw [firstApplicable_of_none hlist, firstApplicable_of_none hrecord]
    cases nullable with
    | true =>
      -- Without null the type is smaller, and the rule behind this one is never reached.
      apply firstApplicable_of_some
      have hinner := hself _ (size_required_lt (.scalar s) metadata)
      have hscalar : (DataType.scalar s).isScalar := rfl
      rw [toColumn_nullable, if_pos hscalar, ← hinner]
      rfl
    | false =>
      have hdefault : defaultRule self ⟨.scalar s, false, metadata⟩ = .ok none := rfl
      have hnullable : nullableRule self ⟨.scalar s, false, metadata⟩ = .ok none := rfl
      rw [firstApplicable_of_none hdefault, firstApplicable_of_none hnullable, toColumn_metadata]
      by_cases hflag : metadata.flag Metadata.lowCardinalityKey
      · apply firstApplicable_of_some
        have hinner := hself _ (size_erase_lt (.scalar s) hflag)
        rw [toColumn_metadata, if_neg (by simp [flag_erase])] at hinner
        rw [if_pos ⟨rfl, hflag⟩, ← hinner]
        simp [dictionaryRule, DataType.isScalar, hflag]
      · have hdictionary : dictionaryRule self ⟨.scalar s, false, metadata⟩ = .ok none := by
          simp [dictionaryRule, hflag]
        rw [if_neg fun h => hflag h.2, firstApplicable_of_none hdictionary, toColumn_plain,
          memberColumn_required]
        cases s with
        | binary => rfl
        | _ =>
          apply firstApplicable_of_some
          rfl

end ClickHouse
end Ingest
