import Ingest.Calendar.Zone.Known
import Ingest.ClickHouse.Driver
import Ingest.Proofs.Schema.Coverage
import Ingest.Proofs.ClickHouse.TypeText

/-!
# Types that were declared

The column that a type is declared as reads back as the loosened type: members of records are
nullable and have lost their metadata. The text of the column can be read if the members of records
are named by words and no record is empty (`wellNamed`). The type is compatible with itself if
moreover all members are nullable (`nullableWithin`), and in no other case.
-/

namespace Ingest
namespace ClickHouse

/-! ## Loosening -/

mutual

/-- The type that a declared one reads back as. -/
def loosened : DataType → DataType
  | .scalar s => .scalar s
  | .list element => .list (loosened element)
  | .struct members => .struct (loosenedMembers members)

def loosenedMembers : List Field → List Field
  | [] => []
  | ⟨name, type, _, _⟩ :: rest => .plain name (loosened type) true :: loosenedMembers rest

end

mutual

/-- Whether all records have members, and all members are named by words. -/
def wellNamed : DataType → Bool
  | .scalar _ => true
  | .list element => wellNamed element
  | .struct members => !members.isEmpty && wellNamedMembers members

def wellNamedMembers : List Field → Bool
  | [] => true
  | ⟨name, type, _, _⟩ :: rest => isWord name && wellNamed type && wellNamedMembers rest

end

mutual

/-- Whether all members of records are nullable. -/
def nullableWithin : DataType → Bool
  | .scalar _ => true
  | .list element => nullableWithin element
  | .struct members => nullableMembers members

def nullableMembers : List Field → Bool
  | [] => true
  | ⟨_, type, nullable, _⟩ :: rest => nullable && nullableWithin type && nullableMembers rest

end

theorem length_loosenedMembers (members : List Field) :
    (loosenedMembers members).length = members.length := by
  induction members with
  | nil => simp [loosenedMembers]
  | cons f rest ih =>
    rcases f with ⟨name, type, nullable, metadata⟩
    simp [loosenedMembers, ih]

mutual

/-- Loosening changes no names. -/
theorem wellNamed_loosened (t : DataType) : wellNamed (loosened t) = wellNamed t :=
  match t with
  | .scalar s => by rw [loosened]
  | .list element => by
    rw [loosened, wellNamed, wellNamed]
    exact wellNamed_loosened element
  | .struct members => by
    have hempty : (loosenedMembers members).isEmpty = members.isEmpty := by
      rw [Bool.eq_iff_iff, List.isEmpty_iff_length_eq_zero, List.isEmpty_iff_length_eq_zero,
        length_loosenedMembers]
    rw [loosened, wellNamed, wellNamed, hempty, wellNamedMembers_loosened members]

theorem wellNamedMembers_loosened (members : List Field) :
    wellNamedMembers (loosenedMembers members) = wellNamedMembers members :=
  match members with
  | [] => by rw [loosenedMembers]
  | ⟨name, type, nullable, metadata⟩ :: rest => by
    rw [loosenedMembers, Field.plain, wellNamedMembers, wellNamedMembers, wellNamed_loosened type,
      wellNamedMembers_loosened rest]

end

theorem isList_loosened (t : DataType) : (loosened t).isList = t.isList := by
  cases t <;> simp [loosened, DataType.isList]

/-! ## Comparing -/

theorem difference?_self (s : Scalar) : s.difference? s = none := by
  cases s <;> simp [Scalar.difference?]

mutual

/-- A type agrees with what it reads back as exactly if all members are nullable. -/
theorem mismatch_loosened (t : DataType) :
    mismatch [] (loosened t) t = none ↔ nullableWithin t = true :=
  match t with
  | .scalar s => by
    simp [loosened, mismatch, accepts, difference?_self, nullableWithin]
  | .list element => by
    have helement := mismatch_loosened element
    simpa [loosened, mismatch, accepts, nullableWithin] using helement
  | .struct members => by
    have hmembers := memberMismatch_loosened 0 members
    simpa [loosened, mismatch, accepts, nullableWithin, length_loosenedMembers] using hmembers

theorem memberMismatch_loosened (index : Nat) (members : List Field) :
    memberMismatch [] index (loosenedMembers members) members = none ↔
      nullableMembers members = true :=
  match members with
  | [] => by simp [loosenedMembers, memberMismatch, nullableMembers]
  | ⟨name, type, nullable, metadata⟩ :: rest => by
    have htype := mismatch_loosened type
    have hrest := memberMismatch_loosened (index + 1) rest
    -- A required member is read back as nullable, which is a difference.
    cases nullable with
    | false => simp [loosenedMembers, Field.plain, memberMismatch, nullableMembers]
    | true =>
      cases hm : mismatch [] (loosened type) type with
      | none =>
        have hnullable : nullableWithin type = true := htype.1 hm
        simpa [loosenedMembers, Field.plain, memberMismatch, nullableMembers, hm, hnullable]
          using hrest
      | some m =>
        have hnot : nullableWithin type = false := by
          apply Bool.eq_false_iff.2
          intro hnullable
          rw [htype.2 hnullable] at hm
          cases hm
        simp [loosenedMembers, Field.plain, memberMismatch, nullableMembers, hm, hnot]

end

mutual

/-- A type that agrees with a well named type has its members. -/
theorem wellNamed_of_mismatch (e a : DataType) (h : mismatch [] e a = none)
    (hnamed : wellNamed e = true) (hnullable : nullableWithin e = true) :
    wellNamed a = true ∧ nullableWithin a = true :=
  match e, a with
  | .scalar _, .scalar _ => by simp [wellNamed, nullableWithin]
  | .list e, .list a => by
    simp only [mismatch, accepts, Bool.false_eq_true, if_false, Option.map_eq_none_iff] at h
    simp only [wellNamed, nullableWithin] at hnamed hnullable ⊢
    exact wellNamed_of_mismatch e a h hnamed hnullable
  | .struct es, .struct as => by
    simp only [mismatch, accepts, Bool.false_eq_true, if_false] at h
    split at h
    · cases h
    · rename_i hlength
      simp only [wellNamed, nullableWithin, Bool.and_eq_true] at hnamed hnullable ⊢
      have hmembers := wellNamed_of_memberMismatch 0 es as (by simpa using hlength) h hnamed.2
        hnullable
      -- As many members stand on either side, and there are some on one.
      refine ⟨⟨?_, hmembers.1⟩, hmembers.2⟩
      cases as with
      | nil =>
        have hes : es = [] := List.length_eq_zero_iff.1 (by simpa using hlength)
        rw [hes] at hnamed
        exact absurd hnamed.1 (by simp)
      | cons a as => rfl
  | .scalar _, .list _ | .scalar _, .struct _ | .list _, .scalar _ | .list _, .struct _
  | .struct _, .scalar _ | .struct _, .list _ => by
    simp [mismatch, accepts] at h

theorem wellNamed_of_memberMismatch (index : Nat) (es as : List Field)
    (hlength : es.length = as.length) (h : memberMismatch [] index es as = none)
    (hnamed : wellNamedMembers es = true) (hnullable : nullableMembers es = true) :
    wellNamedMembers as = true ∧ nullableMembers as = true :=
  match es, as with
  | [], [] => by simp [wellNamedMembers, nullableMembers]
  | ⟨name, type, nullable, metadata⟩ :: es, ⟨name', type', nullable', metadata'⟩ :: as => by
    rw [memberMismatch] at h
    -- What agrees has the same name and the same nullability.
    split_ifs at h with hname hnull
    have hname : name = name' := by simpa using hname
    have hnull : nullable = nullable' := by simpa using hnull
    cases hm : mismatch [] type type' with
    | some m =>
      rw [hm] at h
      cases h
    | none =>
      rw [hm] at h
      simp only [wellNamedMembers, nullableMembers, Bool.and_eq_true] at hnamed hnullable ⊢
      have htype := wellNamed_of_mismatch type type' hm hnamed.1.2 hnullable.1.2
      have hrest := wellNamed_of_memberMismatch (index + 1) es as (Nat.succ.inj hlength) h
        hnamed.2 hnullable.2
      exact ⟨⟨⟨hname ▸ hnamed.1.1, htype.1⟩, hrest.1⟩,
        ⟨⟨hnull ▸ hnullable.1.1, htype.2⟩, hrest.2⟩⟩
  | [], _ :: _ => nomatch hlength
  | _ :: _, [] => nomatch hlength

end

/-! ## Reading back -/

mutual

/-- What a well named type denotes has named and nullable members. -/
theorem wellNamed_of_neutralOf (t : TypeName) (n : NeutralType) (ht : t.WellNamed)
    (h : neutralOf t = .ok n) : wellNamed n.type = true ∧ nullableWithin n.type = true :=
  match t with
  | .named name => by
    rw [neutralOf] at h
    split at h
    · cases h
      simp [wellNamed, nullableWithin]
    · cases h
  | .dateTime64 precision zone => by
    rw [neutralOf] at h
    split at h
    · cases h
      simp [wellNamed, nullableWithin]
    · cases h
  | .array element => by
    rw [TypeName.WellNamed] at ht
    rw [neutralOf] at h
    rcases Outcome.bind_eq_ok h with ⟨n', hn', h⟩
    cases h
    simpa [wellNamed, nullableWithin] using wellNamed_of_neutralOf element n' ht hn'
  | .nullable inner => by
    rw [TypeName.WellNamed] at ht
    rw [neutralOf] at h
    split at h
    · cases h
    · rcases Outcome.bind_eq_ok h with ⟨n', hn', h⟩
      cases h
      exact wellNamed_of_neutralOf inner n' ht hn'
  | .lowCardinality inner => by
    rw [TypeName.WellNamed] at ht
    rw [neutralOf] at h
    exact wellNamed_of_neutralOf inner n ht h
  | .nested columns => by
    rw [TypeName.WellNamed] at ht
    rw [neutralOf] at h
    rcases Outcome.bind_eq_ok h with ⟨fields, hfields, h⟩
    cases h
    rcases wellNamed_of_neutralFields columns fields ht.2 hfields with ⟨hlength, hnamed, hnullable⟩
    -- There are as many fields as columns.
    have hne : fields ≠ [] := by
      rintro rfl
      exact ht.1 (List.length_eq_zero_iff.1 hlength.symm)
    simp [wellNamed, nullableWithin, hnamed, hnullable, hne]
  | .other text => by
    rw [neutralOf] at h
    cases h

theorem wellNamed_of_neutralFields (columns : List (String × TypeName)) (fields : List Field)
    (hcolumns : WellNamedColumns columns) (h : neutralFields columns = .ok fields) :
    fields.length = columns.length ∧ wellNamedMembers fields = true ∧
      nullableMembers fields = true :=
  match columns with
  | [] => by
    rw [neutralFields] at h
    cases h
    simp [wellNamedMembers, nullableMembers]
  | (name, type) :: rest => by
    rw [WellNamedColumns] at hcolumns
    rw [neutralFields] at h
    rcases Outcome.bind_eq_ok h with ⟨n, hn, h⟩
    rcases Outcome.bind_eq_ok h with ⟨others, hothers, h⟩
    cases h
    have htype := wellNamed_of_neutralOf type n hcolumns.2.1 hn
    have hrest := wellNamed_of_neutralFields rest others hcolumns.2.2 hothers
    simp [Field.plain, wellNamedMembers, nullableMembers, hcolumns.1, htype, hrest]

end

/-! ## The columns of types -/

/-- The names of zones need no escapes in literals. -/
def PlainZones (zones : Calendar.ZoneDatabase) : Prop :=
  ∀ name, (zones name).isSome → PlainZone name

section Columns

variable {zones : Calendar.ZoneDatabase}

/-- The column of a scalar type reads back as the type. -/
theorem scalarColumn_eq_ok {s : Scalar} {c : ColumnType} (h : scalarColumn zones s = .ok c) :
    neutralOf c.type = .ok ⟨.scalar s, false, ∅⟩ ∧ c.default.isSome ∧ c.declaresDefault = false := by
  cases s with
  | binary => cases h
  | timestamp unit zone =>
    rcases Outcome.bind_eq_ok h with ⟨z, -, h⟩
    cases h
    refine ⟨?_, rfl, rfl⟩
    rw [neutralOf, TimeUnit.ofPrecision?_precision]
  | _ =>
    cases h
    exact ⟨rfl, rfl, rfl⟩

/-- A scalar type is stored in a column that has no parts. -/
theorem type_of_scalarColumn {s : Scalar} {c : ColumnType} (h : scalarColumn zones s = .ok c) :
    (∃ name, c.type = .named name) ∨ ∃ precision zone, c.type = .dateTime64 precision zone := by
  cases s with
  | binary => cases h
  | timestamp unit zone =>
    rcases Outcome.bind_eq_ok h with ⟨z, -, h⟩
    cases h
    exact .inr ⟨_, _, rfl⟩
  | _ =>
    cases h
    exact .inl ⟨_, rfl⟩

theorem plain_scalarColumn (hz : PlainZones zones) {s : Scalar} {c : ColumnType}
    (h : scalarColumn zones s = .ok c) : c.type.Plain := by
  cases s with
  | binary => cases h
  | timestamp unit zone =>
    rcases Outcome.bind_eq_ok h with ⟨z, hzone, h⟩
    cases h
    rw [TypeName.Plain]
    refine ⟨by cases unit <;> decide, ?_⟩
    rintro name hname
    cases hname
    apply hz name
    rw [resolveZone] at hzone
    split at hzone
    · rename_i known
      rw [known]
      rfl
    · cases hzone
  | _ =>
    cases h
    simp only [plainColumn, TypeName.Plain]
    decide

theorem type_memberColumn {s : Scalar} {nullable : Bool} {c : ColumnType}
    (h : memberColumn zones s nullable = .ok c) :
    ∃ c₀, scalarColumn zones s = .ok c₀ ∧ c.type = c₀.type := by
  rcases Outcome.map_eq_ok h with ⟨c₀, hc₀, rfl⟩
  refine ⟨c₀, hc₀, ?_⟩
  cases nullable <;> rfl

theorem eq_scalar_of_nestable {t : DataType} {s : Scalar} (h : nestable t = some s) :
    t = .scalar s := by
  cases t with
  | scalar s' =>
    cases s' with
    | binary => cases h
    | _ =>
      cases h
      rfl
  | _ => cases h

/-- The column of a field in a nested column. -/
def partColumn (zones : Calendar.ZoneDatabase) (f : Field) : Outcome (String × ColumnType) :=
  match nestable f.type with
  | some s => (memberColumn zones s f.nullable).map fun c => (f.name, c)
  | none => unsupported f.type.text

theorem partColumn_eq_ok {f : Field} {c : String × ColumnType} (h : partColumn zones f = .ok c) :
    c.1 = f.name ∧
      ∃ s c₀, f.type = .scalar s ∧ scalarColumn zones s = .ok c₀ ∧ c.2.type = c₀.type := by
  unfold partColumn at h
  split at h
  · rename_i s hs
    rcases Outcome.map_eq_ok h with ⟨c', hc', rfl⟩
    rcases type_memberColumn hc' with ⟨c₀, hc₀, htype⟩
    exact ⟨rfl, s, c₀, eq_scalar_of_nestable hs, hc₀, htype⟩
  · cases h

theorem neutralFields_of_partColumns {fields : List Field} {columns : List (String × ColumnType)}
    (h : List.Forall₂ (fun f c => partColumn zones f = .ok c) fields columns) :
    neutralFields (columns.map fun c => (c.1, c.2.type)) = .ok (loosenedMembers fields) := by
  induction h with
  | nil => rw [List.map_nil, neutralFields, loosenedMembers]
  | @cons f c fields columns hc _ ih =>
    rcases f with ⟨name, type, nullable, metadata⟩
    rcases partColumn_eq_ok hc with ⟨hname, s, c₀, rfl, hc₀, htype⟩
    rw [List.map_cons, neutralFields, htype, (scalarColumn_eq_ok hc₀).1, ih, hname,
      loosenedMembers, loosened]
    rfl

theorem plain_partColumns (hz : PlainZones zones) {fields : List Field}
    {columns : List (String × ColumnType)}
    (h : List.Forall₂ (fun f c => partColumn zones f = .ok c) fields columns)
    (hnamed : wellNamedMembers fields = true) :
    PlainColumns (columns.map fun c => (c.1, c.2.type)) := by
  induction h with
  | nil => rw [List.map_nil, PlainColumns]; trivial
  | @cons f c fields columns hc _ ih =>
    rcases f with ⟨name, type, nullable, metadata⟩
    rcases partColumn_eq_ok hc with ⟨hname, s, c₀, rfl, hc₀, htype⟩
    simp only [wellNamedMembers, Bool.and_eq_true] at hnamed
    rw [List.map_cons, PlainColumns, hname, htype]
    exact ⟨hnamed.1.1, plain_scalarColumn hz hc₀, ih hnamed.2⟩

theorem nestedColumn_eq_ok {fields : List Field} {c : ColumnType}
    (h : nestedColumn zones fields = .ok c) :
    ∃ columns, List.Forall₂ (fun f c => partColumn zones f = .ok c) fields columns ∧
      c.type = .nested (columns.map fun c => (c.1, c.2.type)) ∧ c.declaresDefault = false := by
  unfold nestedColumn at h
  split at h
  · cases h
  · rcases Outcome.bind_eq_ok h with ⟨columns, hcolumns, h⟩
    cases h
    exact ⟨columns, Outcome.mapM_eq_ok_iff.1 hcolumns, rfl, rfl⟩

/-- The column of a list reads back as the list of the loosened elements. -/
theorem listColumn_eq_ok (element : DataType) {c : ColumnType}
    (h : listColumn zones element = .ok c) :
    neutralOf c.type = .ok ⟨.list (loosened element), false, ∅⟩ ∧ c.declaresDefault = false :=
  match element with
  | .scalar s => by
    rcases Outcome.map_eq_ok h with ⟨c₀, hc₀, rfl⟩
    refine ⟨?_, rfl⟩
    rw [arrayColumn, neutralOf, (scalarColumn_eq_ok hc₀).1, loosened]
    rfl
  | .list element => by
    rw [listColumn] at h
    rcases Outcome.map_eq_ok h with ⟨c₀, hc₀, rfl⟩
    refine ⟨?_, rfl⟩
    rw [arrayColumn, neutralOf, (listColumn_eq_ok element hc₀).1, loosened]
    rfl
  | .struct fields => by
    rcases nestedColumn_eq_ok h with ⟨columns, hcolumns, htype, hdefault⟩
    refine ⟨?_, hdefault⟩
    rw [htype, neutralOf, neutralFields_of_partColumns hcolumns, loosened]
    rfl

theorem plain_listColumn (hz : PlainZones zones) (element : DataType) {c : ColumnType}
    (h : listColumn zones element = .ok c) (hnamed : wellNamed element = true) : c.type.Plain :=
  match element with
  | .scalar s => by
    rcases Outcome.map_eq_ok h with ⟨c₀, hc₀, rfl⟩
    rw [arrayColumn, TypeName.Plain]
    exact plain_scalarColumn hz hc₀
  | .list element => by
    rw [listColumn] at h
    rcases Outcome.map_eq_ok h with ⟨c₀, hc₀, rfl⟩
    rw [wellNamed] at hnamed
    rw [arrayColumn, TypeName.Plain]
    exact plain_listColumn hz element hc₀ hnamed
  | .struct fields => by
    rcases nestedColumn_eq_ok h with ⟨columns, hcolumns, htype, -⟩
    simp only [wellNamed, Bool.and_eq_true] at hnamed
    rw [htype, TypeName.Plain]
    refine ⟨?_, plain_partColumns hz hcolumns hnamed.2⟩
    intro hnil
    have hnone : columns = [] := List.map_eq_nil_iff.1 hnil
    rw [hnone] at hcolumns
    cases hcolumns
    exact absurd hnamed.1 (by simp)

/-- A column reads back as the loosened type, and it declares a default exactly if it is a nullable
scalar. -/
theorem toColumn_eq_ok {t : NeutralType} {c : ColumnType} (h : toColumn zones t = .ok c) :
    neutralOf c.type = .ok ⟨loosened t.type, false, ∅⟩ ∧
      (c.declaresDefault = true → c.default.isSome) ∧
        c.declaresDefault = (t.type.isScalar && t.nullable) := by
  rcases t with ⟨type, nullable, metadata⟩
  cases type with
  | struct members => cases h
  | list element =>
    rcases listColumn_eq_ok element h with ⟨hneutral, hdefault⟩
    rw [loosened, hdefault]
    exact ⟨hneutral, nofun, rfl⟩
  | scalar s =>
    rcases Outcome.map_eq_ok h with ⟨c₀, hc₀, rfl⟩
    rcases scalarColumn_eq_ok hc₀ with ⟨hneutral, hdefault, hnone⟩
    -- Encoding by a dictionary and a default are not part of the type that is denoted.
    have hlow : neutralOf (.lowCardinality c₀.type) = neutralOf c₀.type := by rw [neutralOf]
    rw [loosened]
    cases metadata.flag Metadata.lowCardinalityKey <;> cases nullable <;>
      simp [ColumnType.dictionaryEncoded, ColumnType.withDefault, hlow, hneutral, hdefault, hnone,
        DataType.isScalar]

theorem plain_toColumn (hz : PlainZones zones) {t : NeutralType} {c : ColumnType}
    (h : toColumn zones t = .ok c) (hnamed : wellNamed t.type = true) : c.type.Plain := by
  rcases t with ⟨type, nullable, metadata⟩
  cases type with
  | struct members => cases h
  | list element =>
    rw [wellNamed] at hnamed
    exact plain_listColumn hz element h hnamed
  | scalar s =>
    rcases Outcome.map_eq_ok h with ⟨c₀, hc₀, rfl⟩
    have hplain := plain_scalarColumn hz hc₀
    have hlow : (TypeName.lowCardinality c₀.type).Plain := by rwa [TypeName.Plain]
    cases metadata.flag Metadata.lowCardinalityKey <;> cases nullable <;>
      simpa [ColumnType.dictionaryEncoded, ColumnType.withDefault]

/-! ## Types without a column -/

theorem scalarColumn_eq_error {s : Scalar} {e : Failure} (h : scalarColumn zones s = .error e) :
    ∃ type, e = .unsupportedMapping type mapperName := by
  cases s with
  | binary =>
    cases h
    exact ⟨_, rfl⟩
  | timestamp unit zone =>
    rcases Outcome.bind_eq_error h with hzone | ⟨z, -, h⟩
    · unfold resolveZone at hzone
      split at hzone
      · cases hzone
      · split at hzone
        · cases hzone
        · cases hzone
          exact ⟨_, rfl⟩
    · cases h
  | _ => cases h

theorem partColumn_eq_error {f : Field} {e : Failure} (h : partColumn zones f = .error e) :
    ∃ type, e = .unsupportedMapping type mapperName := by
  unfold partColumn at h
  split at h
  · exact scalarColumn_eq_error (Outcome.map_eq_error (Outcome.map_eq_error h))
  · cases h
    exact ⟨_, rfl⟩

theorem listColumn_eq_error (element : DataType) {e : Failure}
    (h : listColumn zones element = .error e) :
    ∃ type, e = .unsupportedMapping type mapperName :=
  match element with
  | .scalar s => scalarColumn_eq_error (Outcome.map_eq_error h)
  | .list element => by
    rw [listColumn] at h
    exact listColumn_eq_error element (Outcome.map_eq_error h)
  | .struct fields => by
    rw [listColumn] at h
    unfold nestedColumn at h
    split at h
    · cases h
      exact ⟨_, rfl⟩
    · rcases Outcome.bind_eq_error h with hparts | ⟨columns, -, h⟩
      · rcases Outcome.mapM_eq_error hparts with ⟨f, -, hf⟩
        exact partColumn_eq_error hf
      · cases h

/-- A type that has no column is reported as unsupported, and nothing else can happen. -/
theorem toColumn_eq_error {t : NeutralType} {e : Failure} (h : toColumn zones t = .error e) :
    ∃ type, e = .unsupportedMapping type mapperName := by
  rcases t with ⟨type, nullable, metadata⟩
  cases type with
  | scalar s => exact scalarColumn_eq_error (Outcome.map_eq_error h)
  | list element => exact listColumn_eq_error element h
  | struct members =>
    cases h
    exact ⟨_, rfl⟩

end Columns

/-! ## Texts of types -/

/-- The text of the column type of a neutral type can be read, and what is read denotes the
loosened type, exactly if the members of records are well named. -/
theorem ofText_typeName_iff (zones : Calendar.ZoneDatabase) (hz : PlainZones zones)
    (t : NeutralType) (w : ColumnType) (h : (mapper zones).toWarehouse t = .ok w) :
    (∃ c, ColumnType.ofText (WarehouseType.typeName w) = .ok c ∧ c.type = w.type ∧
      (mapper zones).toNeutral c = .ok ⟨loosened t.type, false, ∅⟩) ↔ wellNamed t.type = true := by
  have hcolumn : toColumn zones t = .ok w := h
  have hneutral : neutralOf w.type = .ok ⟨loosened t.type, false, ∅⟩ := (toColumn_eq_ok hcolumn).1
  constructor
  · rintro ⟨c, hread, htype, -⟩
    -- What can be read is well named, and so is what it denotes.
    have hparse : TypeName.parse w.type.text = .ok w.type := by
      unfold ColumnType.ofText at hread
      split at hread
      · rename_i type hparse
        cases hread
        exact hparse.trans (congrArg _ htype)
      · cases hread
    have hnamed := wellNamed_of_neutralOf w.type _ (TypeName.wellNamed_of_parse hparse) hneutral
    rw [← wellNamed_loosened]
    exact hnamed.1
  · intro hnamed
    have hparse : TypeName.parse w.type.text = .ok w.type :=
      TypeName.parse_text (plain_toColumn hz hcolumn hnamed)
    have hread : ColumnType.ofText w.type.text = .ok (ColumnType.ofTypeName w.type) := by
      rw [ColumnType.ofText, hparse]
    exact ⟨_, hread, rfl, hneutral⟩

/-- The type of lists of lists of records with a required time and an optional text. -/
def visits : NeutralType :=
  ⟨.list (.list (.struct
    [.plain "at" (.scalar (.timestamp .millisecond (some "Europe/Warsaw"))) false,
      .plain "page_2" (.scalar .string) true])), true, ∅⟩

/-- Lists of lists of records are read back from their text with both members nullable. -/
theorem ofText_typeName_visits :
    let zones : Calendar.ZoneDatabase := fun name =>
      if name = "Europe/Warsaw" then some Calendar.Zone.warsaw else none
    ∃ w c, (mapper zones).toWarehouse visits = .ok w ∧
      w.type = .array (.nested
        [("at", .dateTime64 3 (some "Europe/Warsaw")), ("page_2", .named "String")]) ∧
      ColumnType.ofText (WarehouseType.typeName w) = .ok c ∧
        (mapper zones).toNeutral c = .ok ⟨.list (.list (.struct
          [.plain "at" (.scalar (.timestamp .millisecond (some "Europe/Warsaw"))) true,
            .plain "page_2" (.scalar .string) true])), false, ∅⟩ := by
  intro zones
  have hz : PlainZones zones := by
    intro name hname
    have hwarsaw : name = "Europe/Warsaw" := by
      by_contra hne
      simp [zones, hne] at hname
    rw [hwarsaw, PlainZone]
    decide
  have hmap : (mapper zones).toWarehouse visits = .ok _ := rfl
  rcases (ofText_typeName_iff zones hz visits _ hmap).2 (by decide) with ⟨c, hread, -, hneutral⟩
  exact ⟨_, c, hmap, rfl, hread, hneutral⟩

/-! ## Declared columns -/

/-- The kind of default that the definition of a column declares. -/
def ColumnType.defaultKind (c : ColumnType) : String :=
  match c.default, c.declaresDefault with
  | some _, true => ColumnInfo.declaredDefault
  | _, _ => ""

/-- The column that the statement for a field declares. -/
def declaredColumn (zones : Calendar.ZoneDatabase) (f : Field) : Outcome ColumnInfo :=
  (toColumn zones f.neutral).map fun c => ⟨f.name, c.type.text, c.defaultKind⟩

section Declared

variable {zones : Calendar.ZoneDatabase} {f : Field} {info : ColumnInfo}

theorem name_of_declaredColumn (h : declaredColumn zones f = .ok info) : info.name = f.name := by
  rcases Outcome.map_eq_ok h with ⟨c, -, rfl⟩
  rfl

/-- A declared column has a default exactly if its field is a nullable scalar. -/
theorem hasDefault_declaredColumn (h : declaredColumn zones f = .ok info) :
    info.hasDefault = (f.type.isScalar && f.nullable) := by
  rcases Outcome.map_eq_ok h with ⟨c, hc, rfl⟩
  rcases toColumn_eq_ok hc with ⟨-, hsome, hdeclares⟩
  have hscalar : c.declaresDefault = (f.type.isScalar && f.nullable) := hdeclares
  rw [← hscalar]
  cases hd : c.declaresDefault with
  | false => cases hdef : c.default <;> simp [ColumnInfo.hasDefault, ColumnType.defaultKind, hd, hdef,
      ColumnInfo.declaredDefault]
  | true =>
    rcases Option.isSome_iff_exists.1 (hsome hd) with ⟨d, hdef⟩
    simp [ColumnInfo.hasDefault, ColumnType.defaultKind, hd, hdef]

/-- The text of a declared column can be read if the members of its field are well named. -/
theorem parse_declaredColumn (hz : PlainZones zones) (h : declaredColumn zones f = .ok info)
    (hnamed : wellNamed f.type = true) :
    ∃ c, toColumn zones f.neutral = .ok c ∧ TypeName.parse info.type = .ok c.type := by
  rcases Outcome.map_eq_ok h with ⟨c, hc, rfl⟩
  exact ⟨c, hc, TypeName.parse_text (plain_toColumn hz hc hnamed)⟩

/-- What a driver accepts for the field of a schema. -/
abbrev checker : FieldChecker := .strictNullability []

/-- A declared column can be read and takes the values of its field. -/
def Fits (info : ColumnInfo) (f : Field) : Prop :=
  ∃ e, Setup.existingField info = .ok e ∧ checker e f = none

theorem existingField_eq_ok {e : Field} (h : Setup.existingField info = .ok e) :
    e.name = info.name ∧
      ∃ t n, TypeName.parse info.type = .ok t ∧ neutralOf t = .ok n ∧ e.type = n.type ∧
        e.nullable = (n.nullable || info.hasDefault) := by
  rcases Outcome.bind_eq_ok h with ⟨c, hc, h⟩
  rcases Outcome.bind_eq_ok h with ⟨n, hn, h⟩
  cases h
  unfold ColumnType.ofText at hc
  split at hc
  · rename_i t ht
    cases hc
    exact ⟨rfl, t, n, ht, hn, rfl, rfl⟩
  · cases hc

theorem existingField_of_parse {t : TypeName} {n : NeutralType}
    (ht : TypeName.parse info.type = .ok t) (hn : neutralOf t = .ok n) :
    Setup.existingField info =
      .ok (NeutralType.named { n with nullable := n.nullable || info.hasDefault } info.name) := by
  rw [Setup.existingField, ColumnType.ofText, ht]
  simp only [ColumnType.ofTypeName, bind, Except.bind, hn]
  rfl

theorem mismatch_of_checker {e f : Field} (h : checker e f = none) :
    mismatch [] e.type f.type = none := by
  unfold checker FieldChecker.strictNullability at h
  split at h
  · cases h
  · simpa using h

theorem checker_eq_none {e f : Field}
    (hagree : (!(e.type.isList || f.type.isList) && e.nullable != f.nullable) = false)
    (hmatch : mismatch [] e.type f.type = none) : checker e f = none := by
  unfold checker FieldChecker.strictNullability
  rw [hagree, if_neg Bool.false_ne_true, hmatch]
  rfl

/-- A declared column fits its field exactly if all members of records are nullable, named by
words, and there are some. -/
theorem fits_iff (hz : PlainZones zones) (h : declaredColumn zones f = .ok info) :
    Fits info f ↔ wellNamed f.type = true ∧ nullableWithin f.type = true := by
  constructor
  · rintro ⟨e, he, hchecks⟩
    rcases existingField_eq_ok he with ⟨-, t, n, ht, hn, htype, -⟩
    -- Whatever was read is well named and nullable, and the field agrees with it.
    rcases wellNamed_of_neutralOf t n (TypeName.wellNamed_of_parse ht) hn with ⟨hnamed, hnullable⟩
    have hmatch := mismatch_of_checker hchecks
    rw [htype] at hmatch
    exact wellNamed_of_mismatch n.type f.type hmatch hnamed hnullable
  · rintro ⟨hnamed, hnullable⟩
    rcases parse_declaredColumn hz h hnamed with ⟨c, hc, hparse⟩
    have hneutral := (toColumn_eq_ok hc).1
    have hread := existingField_of_parse hparse hneutral
    refine ⟨_, hread, ?_⟩
    have hmatch : mismatch [] (loosened f.type) f.type = none := (mismatch_loosened f.type).2 hnullable
    have hdefault := hasDefault_declaredColumn h
    have hagree : (!((loosened f.type).isList || f.type.isList) &&
        (false || info.hasDefault) != f.nullable) = false := by
      -- A scalar is nullable if it was declared with a default; for lists this is not compared.
      rw [hdefault, isList_loosened]
      rcases f with ⟨name, type, nullable, metadata⟩
      cases type with
      | scalar s => simp [DataType.isScalar]
      | list element => simp [DataType.isList]
      | struct members => cases hc
    exact checker_eq_none hagree hmatch

end Declared

end ClickHouse
end Ingest
