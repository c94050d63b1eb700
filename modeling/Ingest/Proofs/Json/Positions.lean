import Ingest.Proofs.Floating.Finite
import Ingest.Value.Text

/-!
# Parts of values in JSON

A way leads from a value to one of its parts, through items of lists and members of records. A way
leads to a part of a value exactly if it leads to the JSON of this part (`Value.at?_toJson`); what
else there is in the JSON are the numbers of bytes (`Value.part_or_byte`). So null stands in the
JSON where the value has null or a floating-point number that is not finite, and nowhere else
(`Value.at?_toJson_eq_null_iff`).
-/

namespace Ingest

/-- A step from a value to what it holds. -/
inductive Part where
  | item (index : Nat)
  | member (name : String)
  deriving DecidableEq, Repr

namespace Json

/-- What a value holds at a part. -/
def part? : Json → Part → Option Json
  | array items, .item i => items[i]?
  | object members, .member name => Dict.get? members name
  | _, _ => none

/-- What a way leads to. -/
def at? (j : Json) : List Part → Option Json
  | [] => some j
  | p :: way => (j.part? p).bind fun inner => inner.at? way

theorem at?_int {n : Int} {way : List Part} {j : Json} (h : (int n).at? way = some j) :
    j = int n := by
  cases way with
  | nil => exact (Option.some.inj h).symm
  | cons p way => cases p <;> cases h

theorem part?_ofNumber (style : Decimal.Style) (x : Floating.Number) (p : Part) :
    (ofNumber style x).part? p = none := by
  unfold ofNumber
  split <;> rfl

theorem ofNumber_eq_null_iff (style : Decimal.Style) (x : Floating.Number) :
    ofNumber style x = null ↔ x.isFinite = false := by
  cases x <;> simp [ofNumber, Floating.Number.jsonDecimal?, Floating.Number.isFinite]

end Json

namespace Dict

theorem get?_membersToJson (form : SingleForm) (members : List (String × Value)) (name : String) :
    get? (Value.membersToJson form members) name = (get? members name).map (Value.toJson form) := by
  induction members with
  | nil => rfl
  | cons e rest ih =>
    obtain ⟨k, v⟩ := e
    rw [Value.membersToJson, get?, get?]
    split
    · rfl
    · exact ih

end Dict

namespace Value

/-- What a value holds at a part. -/
def part? : Value → Part → Option Value
  | list items, .item i => items[i]?
  | struct members, .member name => Dict.get? members name
  | _, _ => none

/-- What a way leads to. -/
def at? (v : Value) : List Part → Option Value
  | [] => some v
  | p :: way => (v.part? p).bind fun inner => inner.at? way

/-- Whether a value is no floating-point number or a finite one. -/
def isFinite : Value → Bool
  | float32 bits => (number32 bits).isFinite
  | float64 bits => (number64 bits).isFinite
  | _ => true

/-- Whether a way leads to a value that is finite, if it leads to one at all. -/
def finiteAt (v : Value) (way : List Part) : Bool :=
  match v.at? way with
  | some u => u.isFinite
  | none => true

theorem finiteAt_of_at? {v u : Value} {way : List Part} (h : v.at? way = some u) :
    v.finiteAt way = u.isFinite := by
  rw [finiteAt, h]

theorem finiteAt_null (way : List Part) : null.finiteAt way = true := by
  cases way with
  | nil => rfl
  | cons p way => cases p <;> rfl

theorem finiteAt_cons_of_part? {v u : Value} {p : Part} (h : v.part? p = some u)
    (way : List Part) : v.finiteAt (p :: way) = u.finiteAt way := by
  rw [finiteAt, at?, h]
  rfl

/-- A member that is absent is null, which is finite like what is absent. -/
theorem finiteAt_member (record : List (String × Value)) (name : String) (way : List Part) :
    (struct record).finiteAt (.member name :: way) = (Row.value record name).finiteAt way := by
  cases h : Dict.get? record name with
  | none =>
    rw [finiteAt, at?, part?, h, Row.value, h, ofOption, finiteAt_null]
    rfl
  | some u =>
    have hpart : (struct record).part? (.member name) = some u := h
    rw [finiteAt_cons_of_part? hpart, Row.value, h, ofOption]

theorem itemsToJson_eq_map (form : SingleForm) (items : List Value) :
    itemsToJson form items = items.map (toJson form) := by
  induction items with
  | nil => rfl
  | cons v vs ih => rw [itemsToJson, ih, List.map_cons]

variable {form : SingleForm} {v u : Value} {j : Json}

/-! ## The same parts -/

theorem part?_toJson {p : Part} (h : v.part? p = some u) :
    (v.toJson form).part? p = some (u.toJson form) := by
  cases v <;> cases p <;> try cases h
  case list.item items i =>
    rw [toJson, Json.part?, itemsToJson_eq_map, List.getElem?_map, show items[i]? = some u from h]
    rfl
  case struct.member members name =>
    rw [toJson, Json.part?, Dict.get?_membersToJson,
      show Dict.get? members name = some u from h]
    rfl

/-- The JSON of a value has the JSON of its parts, and where the value is bytes, their numbers. -/
theorem part?_of_toJson {p : Part} (h : (v.toJson form).part? p = some j) :
    (∃ u, v.part? p = some u ∧ j = u.toJson form) ∨ ∃ n, j = .int n := by
  cases v with
  | list items =>
    cases p with
    | member name => cases h
    | item i =>
      rw [toJson, Json.part?, itemsToJson_eq_map, List.getElem?_map, Option.map_eq_some_iff] at h
      rcases h with ⟨u, hu, rfl⟩
      exact .inl ⟨u, hu, rfl⟩
  | struct members =>
    cases p with
    | item i => cases h
    | member name =>
      rw [toJson, Json.part?, Dict.get?_membersToJson, Option.map_eq_some_iff] at h
      rcases h with ⟨u, hu, rfl⟩
      exact .inl ⟨u, hu, rfl⟩
  | binary bytes =>
    cases p with
    | member name => cases h
    | item i =>
      rw [toJson, Json.part?, List.getElem?_map, Option.map_eq_some_iff] at h
      rcases h with ⟨b, -, rfl⟩
      exact .inr ⟨b.toNat, rfl⟩
  -- All else is one JSON value without parts, be it null.
  | float32 bits => cases form <;> simp [toJson, singleJson, Json.part?_ofNumber] at h
  | float64 bits => simp [toJson, Json.part?_ofNumber] at h
  | _ => cases h

/-- A way leads in the JSON of a value to the JSON of what it leads to in the value. -/
theorem at?_toJson {way : List Part} (h : v.at? way = some u) :
    (v.toJson form).at? way = some (u.toJson form) := by
  induction way generalizing v with
  | nil =>
    cases h
    rfl
  | cons p way ih =>
    rcases Option.bind_eq_some_iff.1 h with ⟨inner, hpart, hrest⟩
    rw [Json.at?, part?_toJson hpart]
    exact ih hrest

/-- Beside the parts of a value there are only numbers of bytes in its JSON. -/
theorem part_or_byte {way : List Part} (h : (v.toJson form).at? way = some j) :
    (∃ u, v.at? way = some u ∧ j = u.toJson form) ∨ ∃ n, j = .int n := by
  induction way generalizing v with
  | nil => exact .inl ⟨v, rfl, (Option.some.inj h).symm⟩
  | cons p way ih =>
    rcases Option.bind_eq_some_iff.1 h with ⟨inner, hpart, hrest⟩
    rcases part?_of_toJson hpart with ⟨u, hu, rfl⟩ | ⟨n, rfl⟩
    · rcases ih hrest with ⟨w, hw, hj⟩ | hbyte
      · exact .inl ⟨w, by rw [at?, hu]; exact hw, hj⟩
      · exact .inr hbyte
    · exact .inr ⟨n, Json.at?_int hrest⟩

/-! ## Null -/

theorem singleJson_eq_null_iff (bits : UInt32) :
    singleJson form bits = .null ↔ (number32 bits).isFinite = false := by
  cases form with
  | widened =>
    rw [singleJson, Json.ofNumber_eq_null_iff, number64, Floating.isFinite_widen, number32]
  | shortest => exact Json.ofNumber_eq_null_iff _ _

theorem toJson_eq_null_iff (v : Value) :
    v.toJson form = .null ↔ v = .null ∨ v.isFinite = false := by
  cases v with
  | float32 bits => simpa [toJson, isFinite] using singleJson_eq_null_iff bits
  | float64 bits => simpa [toJson, isFinite] using Json.ofNumber_eq_null_iff _ _
  | _ => simp [toJson, isFinite]

/-- Null stands in the JSON of a value for null and for numbers that are not finite. -/
theorem at?_toJson_eq_null_iff (v : Value) (way : List Part) :
    (v.toJson form).at? way = some .null ↔
      ∃ u, v.at? way = some u ∧ (u = .null ∨ u.isFinite = false) := by
  constructor
  · intro h
    rcases part_or_byte h with ⟨u, hu, hnull⟩ | ⟨n, hbyte⟩
    · exact ⟨u, hu, (toJson_eq_null_iff u).1 hnull.symm⟩
    · cases hbyte
  · rintro ⟨u, hu, hnull⟩
    rw [at?_toJson hu, (toJson_eq_null_iff u).2 hnull]

/-- The JSON of a value has null exactly where the value has it if all of its numbers are finite,
and only then. -/
theorem nulls_kept_iff (v : Value) :
    (∀ way, (v.toJson form).at? way = some .null ↔ v.at? way = some .null) ↔
      ∀ way u, v.at? way = some u → u.isFinite = true := by
  constructor
  · intro h way u hu
    by_contra hinfinite
    rw [Bool.not_eq_true] at hinfinite
    have hnull : v.at? way = some .null :=
      (h way).1 ((at?_toJson_eq_null_iff v way).2 ⟨u, hu, .inr hinfinite⟩)
    rw [hu] at hnull
    cases hnull
    cases hinfinite
  · intro h way
    rw [at?_toJson_eq_null_iff]
    constructor
    · rintro ⟨u, hu, rfl | hinfinite⟩
      · exact hu
      · rw [h way u hu] at hinfinite
        cases hinfinite
    · intro hnull
      exact ⟨.null, hnull, .inl rfl⟩

end Value
end Ingest
