import Ingest.Proofs.ClickHouse.Rules
import Ingest.Proofs.Schema.Shown

/-!
# Which types ClickHouse stores

`Mappable` are the types that the mapper accepts, and `Offends` names the part that it objects to in
any other one. `mapper_domain` says so of the rules of the mapper, and what nullability and metadata
change about the column of a type.
-/

namespace Ingest
namespace ClickHouse

open MappingRule

variable {zones : Calendar.ZoneDatabase}

/-! ## What is accepted -/

/-- A scalar type with a column: it is not binary, and its zone is known. -/
def HasColumn (zones : Calendar.ZoneDatabase) : Scalar → Prop
  | .binary => False
  | .timestamp _ (some zone) => (zones zone).isSome
  | _ => True

/-- A type inside so many lists. -/
def lists : Nat → DataType → DataType
  | 0, t => t
  | depth + 1, t => .list (lists depth t)

/-- A type with a column: a scalar inside any number of lists, or a record of scalars inside at
least one. -/
def Mappable (zones : Calendar.ZoneDatabase) (t : DataType) : Prop :=
  (∃ depth s, t = lists depth (.scalar s) ∧ HasColumn zones s) ∨
    ∃ depth fields, t = lists (depth + 1) (.struct fields) ∧
      ∀ f ∈ fields, ∃ s, f.type = .scalar s ∧ HasColumn zones s

/-- What a scalar type is refused for. -/
inductive Refused (zones : Calendar.ZoneDatabase) : Scalar → String → Prop
  | binary : Refused zones .binary "binary"
  | zone (unit : TimeUnit) {name shown : String} : zones name = none → Shown name shown →
      Refused zones (.timestamp unit (some name)) ("timestamp zone " ++ shown)

/-- The first part of a type that has no column. -/
inductive Offends (zones : Calendar.ZoneDatabase) : DataType → String → Prop
  /-- A record that does not stand in a list. -/
  | record {fields : List Field} {part : String} : TypeText (.struct fields) part →
      Offends zones (.struct fields) part
  | scalar {s : Scalar} {part : String} : Refused zones s part → Offends zones (.scalar s) part
  | element {element : DataType} {part : String} : element.isStruct = false →
      Offends zones element part → Offends zones (.list element) part
  /-- The first member that is binary, a list or a record. -/
  | member {before after : List Field} {f : Field} {part : String} :
      (∀ g ∈ before, g.type.Plain) → ¬ f.type.Plain → TypeText f.type part →
        Offends zones (.list (.struct (before ++ f :: after))) part
  /-- If there is none, the first zone that is not known. -/
  | memberZone {before after : List Field} {f : Field} {s : Scalar} {part : String} :
      (∀ g ∈ before ++ f :: after, g.type.Plain) →
      (∀ g ∈ before, ∃ s, g.type = .scalar s ∧ HasColumn zones s) →
      f.type = .scalar s → Refused zones s part →
        Offends zones (.list (.struct (before ++ f :: after))) part

theorem nestable_eq_none_iff {t : DataType} : nestable t = none ↔ ¬ t.Plain := by
  constructor
  · rintro hnone ⟨s, rfl, hs⟩
    cases s <;> first | exact hs rfl | cases hnone
  · intro hplain
    cases t with
    | scalar s =>
      cases s with
      | binary => rfl
      | _ => exact absurd ⟨_, rfl, nofun⟩ hplain
    | _ => rfl

theorem HasColumn.ne_binary {s : Scalar} (h : HasColumn zones s) : s ≠ .binary := by
  rintro rfl
  exact h

theorem hasColumn_or_refused (zones : Calendar.ZoneDatabase) (s : Scalar) :
    HasColumn zones s ∨ ∃ part, Refused zones s part := by
  cases s with
  | binary => exact .inr ⟨_, .binary⟩
  | timestamp unit zone =>
    cases zone with
    | none => exact .inl trivial
    | some name =>
      cases hzone : zones name with
      | none => exact .inr ⟨_, .zone unit hzone (shown_iff.2 rfl)⟩
      | some z => exact .inl (Option.isSome_iff_exists.2 ⟨z, hzone⟩)
  | _ => exact .inl trivial

theorem scalarColumn_of_hasColumn {s : Scalar} (h : HasColumn zones s) :
    ∃ c, scalarColumn zones s = .ok c := by
  cases s with
  | binary => cases h
  | timestamp unit zone =>
    cases zone with
    | none => exact ⟨_, rfl⟩
    | some name =>
      rcases Option.isSome_iff_exists.1 h with ⟨z, hz⟩
      have hzone : resolveZone zones (some name) = .ok (some z) := by rw [resolveZone, hz]
      rw [scalarColumn, hzone]
      exact ⟨_, rfl⟩
  | _ => exact ⟨_, rfl⟩

theorem scalarColumn_of_refused {s : Scalar} {part : String} (h : Refused zones s part) :
    scalarColumn zones s = unsupported part := by
  cases h with
  | binary => rfl
  | @zone unit name shown hzone hshown =>
    have hunknown : resolveZone zones (some name) = unsupported ("timestamp zone " ++ shown) := by
      rw [resolveZone, hzone, shown_iff.1 hshown]
    rw [scalarColumn, hunknown]
    rfl

section Members

variable {fields before after : List Field} {f : Field} {s : Scalar} {part : String}

theorem nestable_of_hasColumn (hf : f.type = .scalar s) (hs : HasColumn zones s) :
    nestable f.type = some s := by
  rw [hf]
  cases s with
  | binary => cases hs
  | _ => rfl

theorem partColumn_of_nestable (h : nestable f.type = some s) :
    partColumn zones f = (memberColumn zones s f.nullable).map fun c => (f.name, c) := by
  rw [partColumn, h]

theorem partColumn_of_hasColumn (h : ∃ s, f.type = .scalar s ∧ HasColumn zones s) :
    ∃ c, partColumn zones f = .ok c := by
  rcases h with ⟨s, hf, hs⟩
  rcases scalarColumn_of_hasColumn hs with ⟨c, hc⟩
  rw [partColumn_of_nestable (nestable_of_hasColumn hf hs), memberColumn, hc]
  exact ⟨_, rfl⟩

theorem partColumn_of_refused (hf : f.type = .scalar s) (hplain : f.type.Plain)
    (h : Refused zones s part) : partColumn zones f = unsupported part := by
  rcases hplain with ⟨s', hs', hbinary⟩
  cases hf.symm.trans hs'
  have hnestable : nestable f.type = some s := by
    rw [hf]
    cases h with
    | binary => exact absurd rfl hbinary
    | zone unit _ _ => rfl
  rw [partColumn_of_nestable hnestable, memberColumn, scalarColumn_of_refused h]
  rfl

theorem nestedColumn_of_plain (h : ∀ f ∈ fields, f.type.Plain) :
    nestedColumn zones fields = (fields.mapM (partColumn zones)).map fun columns =>
      ⟨.nested (columns.map fun c => (c.1, c.2.type)), false, none,
        .list (.struct (columns.map fun c => (c.1, c.2.formatter)))⟩ := by
  have hfind : fields.find? (fun f => (nestable f.type).isNone) = none := by
    apply List.find?_eq_none.2
    intro f hf hnone
    exact nestable_eq_none_iff.1 (Option.isNone_iff_eq_none.1 hnone) (h f hf)
  rw [nestedColumn, hfind]
  change (fields.mapM (partColumn zones) >>= _) = _
  cases fields.mapM (partColumn zones) <;> rfl

theorem nestedColumn_of_hasColumn (h : ∀ f ∈ fields, ∃ s, f.type = .scalar s ∧ HasColumn zones s) :
    ∃ c, nestedColumn zones fields = .ok c := by
  have hplain : ∀ f ∈ fields, f.type.Plain := by
    intro f hf
    rcases h f hf with ⟨s, hs, hmapped⟩
    exact ⟨s, hs, hmapped.ne_binary⟩
  rcases Outcome.exists_forall₂ fun f hf => partColumn_of_hasColumn (h f hf) with
    ⟨columns, hcolumns⟩
  rw [nestedColumn_of_plain hplain, Outcome.mapM_eq_ok_iff.2 hcolumns]
  exact ⟨_, rfl⟩

theorem nestedColumn_of_first (hbefore : ∀ g ∈ before, g.type.Plain) (hf : ¬ f.type.Plain) :
    nestedColumn zones (before ++ f :: after) = unsupported f.type.text := by
  have hfind : (before ++ f :: after).find? (fun f => (nestable f.type).isNone) = some f := by
    apply List.find?_eq_some_iff_append.2
    refine ⟨Option.isNone_iff_eq_none.2 (nestable_eq_none_iff.2 hf), before, after, rfl, ?_⟩
    intro g hg
    have hsome : nestable g.type ≠ none := fun hnone => nestable_eq_none_iff.1 hnone (hbefore g hg)
    simpa using Option.isSome_iff_ne_none.2 hsome
  rw [nestedColumn, hfind]

theorem nestedColumn_of_first_zone (hplain : ∀ g ∈ before ++ f :: after, g.type.Plain)
    (hbefore : ∀ g ∈ before, ∃ s, g.type = .scalar s ∧ HasColumn zones s)
    (hf : f.type = .scalar s) (h : Refused zones s part) :
    nestedColumn zones (before ++ f :: after) = unsupported part := by
  have hfirst : partColumn zones f = unsupported part :=
    partColumn_of_refused hf (hplain f (by simp)) h
  rw [nestedColumn_of_plain hplain,
    Outcome.mapM_of_first_error (fun g hg => partColumn_of_hasColumn (hbefore g hg)) hfirst]
  rfl

end Members

/-! ## The domain -/

section Domain

variable {type : DataType} {nullable : Bool} {metadata : Metadata}

theorem isStruct_lists_scalar (depth : Nat) (s : Scalar) :
    (lists depth (.scalar s)).isStruct = false := by
  cases depth <;> rfl

theorem isStruct_lists_succ (depth : Nat) (t : DataType) :
    (lists (depth + 1) t).isStruct = false := rfl

theorem toColumn_of_mappable (h : Mappable zones type) :
    ∃ c, toColumn zones ⟨type, nullable, metadata⟩ = .ok c := by
  rcases h with ⟨depth, s, rfl, hs⟩ | ⟨depth, fields, rfl, hfields⟩
  · -- By induction on the lists around a scalar.
    induction depth generalizing nullable metadata with
    | zero =>
      rcases scalarColumn_of_hasColumn hs with ⟨c, hc⟩
      rw [lists, toColumn_scalar, hc]
      exact ⟨_, rfl⟩
    | succ depth ih =>
      have hinner : ∃ c, toColumn zones ⟨lists depth (.scalar s), false, ∅⟩ = .ok c := ih
      rcases hinner with ⟨c, hc⟩
      rw [lists, toColumn_list (isStruct_lists_scalar depth s), hc]
      exact ⟨_, rfl⟩
  · induction depth generalizing nullable metadata with
    | zero => exact nestedColumn_of_hasColumn hfields
    | succ depth ih =>
      have hinner : ∃ c,
          toColumn zones ⟨lists (depth + 1) (.struct fields), false, ∅⟩ = .ok c := ih
      rcases hinner with ⟨c, hc⟩
      rw [lists, toColumn_list (isStruct_lists_succ depth _), hc]
      exact ⟨_, rfl⟩

theorem toColumn_of_offends {part : String} (h : Offends zones type part) :
    toColumn zones ⟨type, nullable, metadata⟩ = unsupported part := by
  induction h generalizing nullable metadata with
  | record htext =>
    rw [typeText_iff.1 htext]
    rfl
  | scalar hs =>
    rw [toColumn_scalar, scalarColumn_of_refused hs]
    rfl
  | element helement _ ih =>
    rw [toColumn_list helement, ih]
    rfl
  | member hbefore hf htext =>
    rw [typeText_iff.1 htext]
    exact nestedColumn_of_first hbefore hf
  | memberZone hplain hbefore hf hs => exact nestedColumn_of_first_zone hplain hbefore hf hs

theorem mappable_or_offends_record (zones : Calendar.ZoneDatabase) (fields : List Field) :
    Mappable zones (.list (.struct fields)) ∨
      ∃ part, Offends zones (.list (.struct fields)) part := by
  rcases all_or_first (fun f : Field => f.type.Plain) fields with
    hplain | ⟨before, f, after, rfl, hbefore, hf⟩
  · rcases all_or_first (fun f : Field => ∃ s, f.type = .scalar s ∧ HasColumn zones s) fields with
      hall | ⟨before, f, after, rfl, hbefore, hf⟩
    · exact .inl (.inr ⟨0, fields, rfl, hall⟩)
    · rcases hplain f (by simp) with ⟨s, hs, -⟩
      rcases hasColumn_or_refused zones s with hmapped | ⟨part, hrefused⟩
      · exact absurd ⟨s, hs, hmapped⟩ hf
      · exact .inr ⟨part, .memberZone hplain hbefore hs hrefused⟩
  · exact .inr ⟨_, .member hbefore hf (typeText_text f.type)⟩

/-- Another list around a type changes nothing, unless the type is a record. -/
theorem Mappable.list (h : Mappable zones type) : Mappable zones (.list type) := by
  rcases h with ⟨depth, s, rfl, hs⟩ | ⟨depth, fields, rfl, hfields⟩
  · exact .inl ⟨depth + 1, s, rfl, hs⟩
  · exact .inr ⟨depth + 1, fields, rfl, hfields⟩

/-- A type is accepted, or a part of it is the first one without a column. -/
theorem mappable_or_offends (zones : Calendar.ZoneDatabase) (type : DataType) :
    Mappable zones type ∨ ∃ part, Offends zones type part :=
  match type with
  | .struct fields => .inr ⟨_, .record (typeText_text (.struct fields))⟩
  | .scalar s =>
    match hasColumn_or_refused zones s with
    | .inl hs => .inl (.inl ⟨0, s, rfl, hs⟩)
    | .inr ⟨part, hs⟩ => .inr ⟨part, .scalar hs⟩
  | .list (.struct fields) => mappable_or_offends_record zones fields
  | .list (.scalar s) =>
    (mappable_or_offends zones (.scalar s)).imp Mappable.list fun ⟨part, h⟩ =>
      ⟨part, .element rfl h⟩
  | .list (.list inner) =>
    (mappable_or_offends zones (.list inner)).imp Mappable.list fun ⟨part, h⟩ =>
      ⟨part, .element rfl h⟩

/-- The mappable types have columns, and all others are refused for the part that offends. -/
theorem toColumn_decides (type : DataType) (nullable : Bool) (metadata : Metadata) :
    ((∃ c, toColumn zones ⟨type, nullable, metadata⟩ = .ok c) ↔ Mappable zones type) ∧
      ∀ e, toColumn zones ⟨type, nullable, metadata⟩ = .error e ↔
        ∃ part, Offends zones type part ∧ e = .unsupportedMapping part mapperName :=
  accepts_and_refuses toColumn_of_mappable (fun _ => toColumn_of_offends)
    (mappable_or_offends zones type)

/-- A column that is declared with the default of another one, and is the same otherwise. -/
structure DefaultDeclared (c d : ColumnType) : Prop where
  type : d.type = c.type
  default : d.default = c.default
  plain : c.definition = c.type.text
  declared : ∃ value, c.default = some value ∧
    d.definition = c.type.text ++ " DEFAULT " ++ value.sql ∧
      ∀ m, d.formatter .null m = c.formatter value.value m
  formatter : ∀ v m, v.isNull = false → d.formatter v m = c.formatter v m

theorem declares_withDefault {s : Scalar} {c : ColumnType}
    (h : toColumn zones ⟨.scalar s, false, metadata⟩ = .ok c) :
    DefaultDeclared c c.withDefault := by
  rw [toColumn_scalar] at h
  rcases Outcome.map_eq_ok h with ⟨c₀, hc₀, hc⟩
  rcases scalarColumn_eq_ok hc₀ with ⟨-, hdefault, hplain⟩
  rcases Option.isSome_iff_exists.1 hdefault with ⟨value, hvalue⟩
  have hsame : c.default = some value ∧ c.declaresDefault = false := by
    rw [← hc]
    by_cases hflag : metadata.flag Metadata.lowCardinalityKey <;>
      simp [hflag, ColumnType.dictionaryEncoded, hvalue, hplain]
  rcases hsame with ⟨hvalue, hplain⟩
  exact {
    type := rfl
    default := rfl
    plain := by rw [ColumnType.definition, hvalue, hplain]
    declared := ⟨value, hvalue, by
      simp [ColumnType.definition, ColumnType.withDefault, hvalue], by
      intro m
      simp [ColumnType.withDefault, Formatter.nullAs, Value.isNull, hvalue]⟩
    formatter := by
      intro v m hv
      simp [ColumnType.withDefault, Formatter.nullAs, hv] }

/-- A column that is dictionary-encoded where another one is not, and is the same otherwise. -/
structure Encoded (c d : ColumnType) : Prop where
  plain : ∀ t, c.type ≠ .lowCardinality t
  type : d.type = .lowCardinality c.type
  text : d.type.text = "LowCardinality(" ++ c.type.text ++ ")"
  declaresDefault : d.declaresDefault = c.declaresDefault
  default : d.default = c.default
  formatter : d.formatter = c.formatter

theorem encoded_dictionaryEncoded {s : Scalar} {c : ColumnType}
    (h : toColumn zones ⟨.scalar s, nullable, ∅⟩ = .ok c) : Encoded c c.dictionaryEncoded where
  plain := by
    rw [toColumn_scalar] at h
    rcases Outcome.map_eq_ok h with ⟨c₀, hc₀, rfl⟩
    have hflag : Metadata.flag ∅ Metadata.lowCardinalityKey = false := rfl
    intro t
    rcases type_of_scalarColumn hc₀ with ⟨name, htype⟩ | ⟨precision, zone, htype⟩ <;>
      cases nullable <;> simp [hflag, ColumnType.withDefault, htype]
  type := rfl
  text := by
    rw [ColumnType.dictionaryEncoded, TypeName.text, TypeName.chars_lowCardinality, TypeName.text]
    apply String.toList_injective
    simp [parameterized]
  declaresDefault := rfl
  default := rfl
  formatter := rfl

/-- The metadata of the members of a record do not matter. -/
theorem nestedColumn_bared (fields : List Field) :
    nestedColumn zones (fields.map Field.bared) = nestedColumn zones fields := by
  rcases all_or_first (fun f : Field => f.type.Plain) fields with
    hplain | ⟨before, f, after, rfl, hbefore, hf⟩
  · have hbared : ∀ f ∈ fields.map Field.bared, f.type.Plain := List.forall_mem_map.2 hplain
    rw [nestedColumn_of_plain hplain, nestedColumn_of_plain hbared, List.mapM_map]
    rfl
  · have hbared : ∀ f ∈ before.map Field.bared, f.type.Plain := List.forall_mem_map.2 hbefore
    rw [List.map_append, List.map_cons, nestedColumn_of_first hbefore hf]
    exact nestedColumn_of_first (f := f.bared) hbared hf

theorem toColumn_bared (depth : Nat) (fields : List Field) (nullable : Bool) (metadata : Metadata) :
    toColumn zones ⟨lists (depth + 1) (.struct (fields.map Field.bared)), nullable, metadata⟩ =
      toColumn zones ⟨lists (depth + 1) (.struct fields), nullable, metadata⟩ := by
  induction depth generalizing nullable metadata with
  | zero => exact nestedColumn_bared fields
  | succ depth ih =>
    rw [lists, toColumn_list (isStruct_lists_succ depth _), ih,
      ← toColumn_list (isStruct_lists_succ depth _)]
    rfl

/-- What the mapper does with a type. -/
structure Charted (zones : Calendar.ZoneDatabase) (type : DataType) (nullable : Bool)
    (metadata : Metadata) : Prop where
  /-- The rules come to an end, and with the result of the mapper. -/
  ends : ∀ depth, size ⟨type, nullable, metadata⟩ < depth →
    unrolled mapperName (rules zones) depth ⟨type, nullable, metadata⟩ =
      (mapper zones).toWarehouse ⟨type, nullable, metadata⟩
  accepts : (∃ c, (mapper zones).toWarehouse ⟨type, nullable, metadata⟩ = .ok c) ↔
    Mappable zones type
  refuses : ∀ e, (mapper zones).toWarehouse ⟨type, nullable, metadata⟩ = .error e ↔
    ∃ part, Offends zones type part ∧ e = .unsupportedMapping part "clickhouse"
  /-- A scalar that may be null is declared with its default. -/
  withNull : ∀ c, type.isScalar = true →
    (mapper zones).toWarehouse ⟨type, false, metadata⟩ = .ok c →
      ∃ d, (mapper zones).toWarehouse ⟨type, true, metadata⟩ = .ok d ∧ DefaultDeclared c d
  /-- For other types nullability does not matter. -/
  composite : type.isScalar = false →
    (mapper zones).toWarehouse ⟨type, true, metadata⟩ =
      (mapper zones).toWarehouse ⟨type, false, metadata⟩
  /-- The flag makes a scalar dictionary-encoded. -/
  encoded : ∀ c, type.isScalar = true →
    metadata.get? "warehouse.clickhouse.low_cardinality" = some "true" →
      (mapper zones).toWarehouse ⟨type, nullable, ∅⟩ = .ok c →
        ∃ d, (mapper zones).toWarehouse ⟨type, nullable, metadata⟩ = .ok d ∧ Encoded c d
  /-- Without the flag, and for other types also with it, metadata do nothing. -/
  unencoded :
    ¬ (type.isScalar = true ∧
      metadata.get? "warehouse.clickhouse.low_cardinality" = some "true") →
        (mapper zones).toWarehouse ⟨type, nullable, metadata⟩ =
          (mapper zones).toWarehouse ⟨type, nullable, ∅⟩
  /-- Metadata of the members of a record do nothing, not even with the flag. -/
  members : ∀ depth fields, type = lists (depth + 1) (.struct fields) →
    (mapper zones).toWarehouse
        ⟨lists (depth + 1) (.struct (fields.map Field.bared)), nullable, metadata⟩ =
      (mapper zones).toWarehouse ⟨type, nullable, metadata⟩

/-- The rules of the mapper end for every type, they accept the mappable types and no others, and
name the first part of a type that is not mappable. -/
theorem mapper_domain (zones : Calendar.ZoneDatabase) (type : DataType) (nullable : Bool)
    (metadata : Metadata) : Charted zones type nullable metadata where
  ends depth hdepth := unrolled_eq size rules_eq_toColumn hdepth
  accepts := (toColumn_decides type nullable metadata).1
  refuses := (toColumn_decides type nullable metadata).2
  withNull c hscalar hc := by
    cases type with
    | scalar s =>
      refine ⟨c.withDefault, ?_, declares_withDefault hc⟩
      have hmapped : toColumn zones ⟨.scalar s, false, metadata⟩ = .ok c := hc
      have hdeclared : toColumn zones ⟨.scalar s, true, metadata⟩ = _ :=
        toColumn_nullable (.scalar s) metadata
      rw [hmapped, if_pos hscalar] at hdeclared
      exact hdeclared
    | _ => cases hscalar
  composite hscalar := by
    have hnot : ¬ type.isScalar := by simp [hscalar]
    exact (toColumn_nullable type metadata).trans (if_neg hnot)
  encoded c hscalar hkey hc := by
    have hflag : metadata.flag Metadata.lowCardinalityKey = true := beq_iff_eq.2 hkey
    have hmapped : toColumn zones ⟨type, nullable, ∅⟩ = .ok c := hc
    have hencoded : toColumn zones ⟨type, nullable, metadata⟩ = .ok c.dictionaryEncoded := by
      rw [toColumn_metadata, if_pos ⟨hscalar, hflag⟩, hmapped]
      rfl
    cases type with
    | scalar s => exact ⟨c.dictionaryEncoded, hencoded, encoded_dictionaryEncoded hmapped⟩
    | _ => cases hscalar
  unencoded hnot :=
    (toColumn_metadata type nullable metadata).trans
      (if_neg fun h => hnot ⟨h.1, beq_iff_eq.1 h.2⟩)
  members depth fields htype := by
    rw [htype]
    exact toColumn_bared depth fields nullable metadata

end Domain
end ClickHouse
end Ingest
