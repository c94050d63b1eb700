import Ingest.Arrow.Interchange
import Ingest.Proofs.Outcome
import Ingest.Proofs.Schema.Comparison

/-!
# Interchange without loss

A neutral schema comes back from its Arrow form as it was. Of an Arrow schema the neutral form does
not tell how content is stored, what the items of lists are called and whether they may be null,
nor what is noted of items and of the schema as a whole: `ArrowSchema.regular` leaves these out and
keeps all else. A schema is the neutral form of exactly those Arrow schemas whose regular form is
its own Arrow form (`interchange_lossless`).
-/

namespace Ingest
namespace Arrow

/-! ## Regular forms -/

mutual

/-- A type stored in the regular way throughout, with items of lists that are nullable, without
metadata and of one name. What has no neutral form stays as it is. -/
def ArrowType.regular : ArrowType → ArrowType
  | .utf8 _ => .utf8 .regular
  | .binary _ => .binary .regular
  | .list _ ⟨_, type, _, _⟩ => .list .regular ⟨"item", type.regular, true, ∅⟩
  | .struct fields => .struct (regularFields fields)
  | t => t

/-- Fields with the regular form of their types; their names, nullability and metadata stay. -/
def regularFields : List ArrowField → List ArrowField
  | [] => []
  | ⟨name, type, nullable, metadata⟩ :: rest =>
    ⟨name, type.regular, nullable, metadata⟩ :: regularFields rest

end

/-- The regular form of a schema has no metadata but those of its fields. -/
def ArrowSchema.regular (a : ArrowSchema) : ArrowSchema :=
  ⟨regularFields a.fields, ∅⟩

mutual

/-- The regular form of a type is taken for the same neutral type, or refused in the same words. -/
theorem toDataType_regular : (a : ArrowType) → a.regular.toDataType = a.toDataType
  | .list _ ⟨_, type, _, _⟩ => by
    simp only [ArrowType.regular, ArrowType.toDataType, toDataType_regular type]
  | .struct fields => by
    simp only [ArrowType.regular, ArrowType.toDataType, toFields_regularFields fields]
  | .utf8 _ | .binary _ => rfl
  | .bool | .int32 | .int64 | .float32 | .float64 | .date32 => rfl
  | .timestamp _ _ | .foreign _ | .dictionary _ _ => rfl

theorem toFields_regularFields : (as : List ArrowField) →
    toFields (regularFields as) = toFields as
  | [] => rfl
  | ⟨_, type, _, _⟩ :: rest => by
    simp only [regularFields, toFields, toDataType_regular type, toFields_regularFields rest]

end

/-! ## From neutral types and back -/

theorem toFields_ofFields {fs : List Field}
    (h : ∀ f ∈ fs, (ofDataType f.type).toDataType = .ok f.type) :
    toFields (ofFields fs) = .ok fs := by
  induction fs with
  | nil => rfl
  | cons f rest ih =>
    rcases f with ⟨name, type, nullable, metadata⟩
    have htype : (ofDataType type).toDataType = .ok type := h _ List.mem_cons_self
    have hrest := ih fun g hg => h g (List.mem_cons_of_mem _ hg)
    rw [ofFields, toFields, htype, hrest]
    rfl

theorem toDataType_ofDataType (t : DataType) : (ofDataType t).toDataType = .ok t := by
  induction t using DataType.induction with
  | scalar s => cases s <;> rfl
  | list element ih =>
    simp only [ofDataType, itemField, ArrowType.toDataType, ih]
    rfl
  | struct fields ih =>
    simp only [ofDataType, ArrowType.toDataType, toFields_ofFields ih]
    rfl

/-! ## To neutral types and back -/

mutual

theorem ofDataType_of_toDataType : (a : ArrowType) → {t : DataType} → a.toDataType = .ok t →
    ofDataType t = a.regular
  | .list _ ⟨_, type, _, _⟩, t, h => by
    rcases Outcome.map_eq_ok h with ⟨element, helement, rfl⟩
    rw [ofDataType, itemField, ofDataType_of_toDataType type helement, ArrowType.regular]
  | .struct fields, t, h => by
    rcases Outcome.map_eq_ok h with ⟨members, hmembers, rfl⟩
    rw [ofDataType, ofFields_of_toFields fields hmembers, ArrowType.regular]
  | .utf8 _, t, h | .binary _, t, h => by
    cases h
    rfl
  | .bool, t, h | .int32, t, h | .int64, t, h | .float32, t, h | .float64, t, h => by
    cases h
    rfl
  | .date32, t, h | .timestamp _ _, t, h => by
    cases h
    rfl
  | .foreign _, t, h | .dictionary _ _, t, h => by cases h

theorem ofFields_of_toFields : (as : List ArrowField) → {fs : List Field} →
    toFields as = .ok fs → ofFields fs = regularFields as
  | [], fs, h => by
    cases h
    rfl
  | ⟨_, type, _, _⟩ :: rest, fs, h => by
    rcases Outcome.bind_eq_ok h with ⟨t, ht, h⟩
    rcases Outcome.bind_eq_ok h with ⟨others, hothers, h⟩
    cases h
    rw [ofFields, ofDataType_of_toDataType type ht, ofFields_of_toFields rest hothers,
      regularFields]

end

/-! ## Schemas -/

theorem toSchema_regular (a : ArrowSchema) : a.regular.toSchema = a.toSchema := by
  rw [ArrowSchema.toSchema, ArrowSchema.regular, toFields_regularFields, ArrowSchema.toSchema]

theorem toSchema_ofSchema (s : Schema) : (ofSchema s).toSchema = .ok s := by
  rw [ArrowSchema.toSchema, ofSchema, toFields_ofFields fun f _ => toDataType_ofDataType f.type]
  exact Schema.ofFields_eq_ok_iff.2 rfl

theorem ofSchema_of_toSchema {a : ArrowSchema} {s : Schema} (h : a.toSchema = .ok s) :
    ofSchema s = a.regular := by
  rcases Outcome.bind_eq_ok h with ⟨fields, hfields, h⟩
  rw [ofSchema, Schema.ofFields_eq_ok_iff.1 h, ofFields_of_toFields a.fields hfields,
    ArrowSchema.regular]

/-- A neutral schema is the neutral form of its Arrow form, and of exactly those Arrow schemas that
have the same regular form. -/
theorem interchange_lossless :
    (∀ s : Schema, (ofSchema s).toSchema = .ok s) ∧
      ∀ (a : ArrowSchema) (s : Schema), a.toSchema = .ok s ↔ ofSchema s = a.regular := by
  refine ⟨toSchema_ofSchema, fun a s => ⟨ofSchema_of_toSchema, fun h => ?_⟩⟩
  calc
    a.toSchema = a.regular.toSchema := (toSchema_regular a).symm
    _ = (ofSchema s).toSchema := by rw [h]
    _ = .ok s := toSchema_ofSchema s

/-- A large list of large texts that may not be null has the regular form of any list of texts. -/
example : ArrowType.regular (.list .large ⟨"element", .utf8 .large, false, ∅⟩) =
    ofDataType (.list (.scalar .string)) := rfl

end Arrow
end Ingest
