import Ingest.BigQuery.Driver
import Ingest.Proofs.Outcome

/-!
# Types that were stored

A column that a type was stored in reads back as the widened type: integers and floating-point
numbers have their greatest width, timestamps have lost their unit and zone, and members of records
have lost their metadata. Names, order and nullability of members are kept. `checker` takes a
widened type for the type itself.
-/

namespace Ingest
namespace BigQuery

/-! ## Widening -/

/-- The scalar type that a stored one reads back as. -/
def widenedScalar : Scalar → Scalar
  | .int32 => .int64
  | .float32 => .float64
  | .timestamp _ _ => .timestamp .second none
  | s => s

mutual

/-- The type that a stored one reads back as. -/
def widened : DataType → DataType
  | .scalar s => .scalar (widenedScalar s)
  | .list element => .list (widened element)
  | .struct members => .struct (widenedMembers members)

def widenedMembers : List Field → List Field
  | [] => []
  | ⟨name, type, nullable, _⟩ :: rest =>
    .plain name (widened type) nullable :: widenedMembers rest

end

@[simp] theorem widened_scalar (s : Scalar) :
    widened (.scalar s) = .scalar (widenedScalar s) := by
  simp [widened]

@[simp] theorem widened_list (element : DataType) :
    widened (.list element) = .list (widened element) := by
  simp [widened]

@[simp] theorem widened_struct (members : List Field) :
    widened (.struct members) = .struct (widenedMembers members) := by
  simp [widened]

@[simp] theorem widenedMembers_nil : widenedMembers [] = [] := by
  simp [widenedMembers]

@[simp] theorem widenedMembers_cons (f : Field) (rest : List Field) :
    widenedMembers (f :: rest) =
      .plain f.name (widened f.type) f.nullable :: widenedMembers rest := by
  cases f
  simp [widenedMembers]

theorem length_widenedMembers (members : List Field) :
    (widenedMembers members).length = members.length := by
  induction members with
  | nil => simp
  | cons f rest ih => simp [ih]

/-! ## Comparing with the widened type -/

/-- What the comparison with a table disregards. -/
def wideningRules : List CompatibilityRule := [.intWidening, .floatWidening, .anyTimestamp]

theorem checker_eq : checker = .strictNullability wideningRules := rfl

theorem mismatch_widenedScalar (s : Scalar) :
    mismatch wideningRules (.scalar (widenedScalar s)) (.scalar s) = none := by
  cases s <;>
    simp [mismatch, widenedScalar, wideningRules, accepts, CompatibilityRule.intWidening,
      CompatibilityRule.floatWidening, CompatibilityRule.anyTimestamp, CompatibilityRule.either,
      Scalar.difference?]

mutual

/-- A type agrees with what it reads back as. -/
theorem mismatch_widened (t : DataType) : mismatch wideningRules (widened t) t = none :=
  match t with
  | .scalar s => by
    rw [widened_scalar]
    exact mismatch_widenedScalar s
  | .list element => by
    -- Equal types are taken for each other at once; otherwise the elements decide.
    rw [widened_list, mismatch]
    split
    · rfl
    · rw [mismatch_widened element]
      rfl
  | .struct members => by
    rw [widened_struct, mismatch]
    split
    · rfl
    -- As many members stand on either side, so that they are compared pair by pair.
    · rw [if_neg (by simp [length_widenedMembers])]
      exact memberMismatch_widened 0 members

theorem memberMismatch_widened (index : Nat) (members : List Field) :
    memberMismatch wideningRules index (widenedMembers members) members = none :=
  match members with
  | [] => by simp [memberMismatch]
  | ⟨name, type, nullable, metadata⟩ :: rest => by
    have htype := mismatch_widened type
    have hrest := memberMismatch_widened (index + 1) rest
    simp [Field.plain, memberMismatch, htype, hrest]

end

/-! ## Reading what was stored -/

theorem neutral_of_ne_record {f : FieldSchema} (h : f.type ≠ .record) :
    f.neutral = (plainNeutral f.type).map (moded f.mode) := by
  rcases f with ⟨name, type, mode, description, fields⟩
  cases type <;> first | rfl | exact absurd rfl h

theorem neutral_record {f : FieldSchema} (h : f.type = .record) :
    f.neutral = (memberFields f.fields).map fun members => moded f.mode (.struct members) := by
  rcases f with ⟨name, type, mode, description, fields⟩
  subst h
  simp only [FieldSchema.neutral]
  cases memberFields fields <;> rfl

/-- The column of a scalar type. -/
theorem scalarColumn_eq_ok {s : Scalar} {c : ColumnType} (h : scalarColumn s = .ok c) :
    c.type ≠ .record ∧ c.mode = .required ∧
      plainNeutral c.type = .ok (.scalar (widenedScalar s)) := by
  -- Bytes have no column; each other scalar type has one of its own.
  cases s with
  | binary => cases h
  | _ =>
    cases h
    exact ⟨by simp [ColumnType.required], rfl, rfl⟩

theorem neutral_of_scalarOrNullColumn {s : Scalar} {nullable : Bool} {c : ColumnType}
    (h : scalarOrNullColumn s nullable = .ok c) (name : String) (description : Option String) :
    (c.toFieldSchema name description).neutral =
      .ok ⟨.scalar (widenedScalar s), nullable, ∅⟩ := by
  rcases Outcome.map_eq_ok h with ⟨c₀, hs, rfl⟩
  rcases scalarColumn_eq_ok hs with ⟨htype, hmode, hplain⟩
  cases nullable with
  | false =>
    rw [if_neg Bool.false_ne_true, neutral_of_ne_record htype]
    simp [ColumnType.toFieldSchema, hplain, hmode, moded, Outcome.map_ok]
  | true =>
    rw [if_pos rfl, neutral_of_ne_record htype]
    simp [ColumnType.toFieldSchema, ColumnType.optional, hplain, moded, Outcome.map_ok]

theorem neutral_of_memberColumn {f : Field} {c : String × ColumnType}
    (h : memberColumn f = .ok c) :
    c.1 = f.name ∧
      (c.2.toFieldSchema c.1 none).neutral = .ok ⟨widened f.type, f.nullable, ∅⟩ := by
  rcases f with ⟨name, type, nullable, metadata⟩
  cases type with
  | scalar s =>
    rcases Outcome.map_eq_ok h with ⟨c₀, hs, rfl⟩
    refine ⟨rfl, ?_⟩
    rw [widened_scalar]
    exact neutral_of_scalarOrNullColumn hs name none
  | _ => cases h

/-- The members of a record read back as the widened members. -/
theorem memberFields_of_memberColumns {members : List Field} {columns : List (String × ColumnType)}
    (h : List.Forall₂ (fun f c => memberColumn f = .ok c) members columns) :
    memberFields (columns.map fun c => c.2.toFieldSchema c.1 none) =
      .ok (widenedMembers members) := by
  induction h with
  | nil => rw [widenedMembers_nil, List.map_nil, memberFields]
  | @cons f c members columns hc _ ih =>
    rcases neutral_of_memberColumn hc with ⟨hname, hneutral⟩
    rw [List.map_cons, memberFields, hneutral, ih, widenedMembers_cons, ← hname]
    rfl

/-- A record has a column for each member. -/
theorem columns_of_recordColumn {members : List Field} {c : ColumnType}
    (h : recordColumn members = .ok c) :
    ∃ columns, List.Forall₂ (fun f p => memberColumn f = .ok p) members columns ∧
      c = ⟨.record, .nullable, columns.map fun p => p.2.toFieldSchema p.1 none,
        .struct (columns.map fun p => (p.1, p.2.formatter))⟩ := by
  unfold recordColumn at h
  split at h
  · cases h
  · rcases Outcome.bind_eq_ok h with ⟨columns, hcolumns, h⟩
    cases h
    exact ⟨columns, Outcome.mapM_eq_ok_iff.1 hcolumns, rfl⟩

theorem recordColumn_eq_ok {members : List Field} {c : ColumnType}
    (h : recordColumn members = .ok c) :
    c.type = .record ∧ c.mode = .nullable ∧
      memberFields c.fields = .ok (widenedMembers members) := by
  rcases columns_of_recordColumn h with ⟨columns, hcolumns, rfl⟩
  exact ⟨rfl, rfl, memberFields_of_memberColumns hcolumns⟩

/-- The column of a list reads back as the list of the widened elements. -/
theorem neutral_of_elementColumn {element : DataType} {c : ColumnType}
    (h : elementColumn element = .ok c) (name : String) (description : Option String) :
    (c.repeated.toFieldSchema name description).neutral =
      .ok ⟨.list (widened element), true, ∅⟩ := by
  cases element with
  -- A list of lists has no column.
  | list element => cases h
  | scalar s =>
    rcases scalarColumn_eq_ok h with ⟨htype, -, hplain⟩
    rw [neutral_of_ne_record htype]
    simp [ColumnType.toFieldSchema, ColumnType.repeated, hplain, moded, Outcome.map_ok]
  | struct members =>
    rcases recordColumn_eq_ok h with ⟨htype, -, hmembers⟩
    rw [neutral_record htype]
    simp [ColumnType.toFieldSchema, ColumnType.repeated, hmembers, moded, Outcome.map_ok]

/-- A record stands for one element, and null is allowed in its place. -/
theorem neutral_of_recordColumn {members : List Field} {c : ColumnType}
    (h : recordColumn members = .ok c) (name : String) (description : Option String) :
    (c.toFieldSchema name description).neutral =
      .ok ⟨.struct (widenedMembers members), true, ∅⟩ := by
  rcases recordColumn_eq_ok h with ⟨htype, hmode, hmembers⟩
  rw [neutral_record htype]
  simp [ColumnType.toFieldSchema, hmode, hmembers, moded, Outcome.map_ok]

/-- A record has a column only where it is placed inside a list. -/
theorem toColumn_struct_eq_ok {members : List Field} {nullable : Bool} {metadata : Metadata}
    {c : ColumnType} (h : toColumn ⟨.struct members, nullable, metadata⟩ = .ok c) :
    insideList metadata = true ∧ recordColumn members = .ok c := by
  simp only [toColumn] at h
  split at h
  · exact ⟨‹_›, h⟩
  · cases h

/-- A column reads back as the widened type. Only scalars can be required. -/
theorem neutral_of_mapped {t : NeutralType} {c : ColumnType} (h : toColumn t = .ok c)
    (name : String) (description : Option String) :
    (c.toFieldSchema name description).neutral =
      .ok ⟨widened t.type, !t.type.isScalar || t.nullable, ∅⟩ := by
  rcases t with ⟨type, nullable, metadata⟩
  cases type with
  | scalar s =>
    rw [widened_scalar]
    exact neutral_of_scalarOrNullColumn h name description
  | list element =>
    rcases Outcome.map_eq_ok h with ⟨c₀, hc₀, rfl⟩
    rw [widened_list]
    exact neutral_of_elementColumn hc₀ name description
  | struct members =>
    rw [widened_struct]
    exact neutral_of_recordColumn (toColumn_struct_eq_ok h).2 name description

/-- A column reads back as the widened type. A list counts as nullable. -/
theorem neutral_of_toColumn {t : NeutralType} {c : ColumnType} (h : toColumn t = .ok c)
    (ht : insideList t.metadata = false) (name : String) (description : Option String) :
    (c.toFieldSchema name description).neutral =
      .ok ⟨widened t.type, t.type.isList || t.nullable, ∅⟩ := by
  rw [neutral_of_mapped h]
  rcases t with ⟨type, nullable, metadata⟩
  cases type with
  | scalar s => rfl
  | list element => rfl
  | struct members =>
    -- Only an element of a list becomes a record.
    cases ht.symm.trans (toColumn_struct_eq_ok h).1

/-- What is read from a table is told by the type, the mode and the members of a field alone. -/
theorem neutralOf_ofFieldSchema (f : FieldSchema) :
    neutralOf (ColumnType.ofFieldSchema f) = f.neutral := by
  rcases f with ⟨name, type, mode, description, fields⟩
  cases type <;> rfl

/-- The column of a type is read back, under any name and description, as the widened type. Only
scalars can be required. -/
theorem mapper_round_trips (t : NeutralType) (w : ColumnType) (h : mapper.toWarehouse t = .ok w)
    (name : String) (description : Option String) :
    mapper.toNeutral (ColumnType.ofFieldSchema (w.toFieldSchema name description)) =
      .ok ⟨widened t.type, !t.type.isScalar || t.nullable, ∅⟩ := by
  have hread : mapper.toNeutral (ColumnType.ofFieldSchema (w.toFieldSchema name description)) =
      (w.toFieldSchema name description).neutral := neutralOf_ofFieldSchema _
  rw [hread]
  exact neutral_of_mapped h name description

/-- The type of lists of records with a required number and a time. -/
def visits : NeutralType :=
  ⟨.list (.struct [.plain "page" (.scalar .int32) false,
    .plain "at" (.scalar (.timestamp .millisecond (some "UTC"))) true]), false, ∅⟩

/-- The number is read back with its greatest width, and it is still required. -/
theorem mapper_round_trips_visits :
    ∃ w, mapper.toWarehouse visits = .ok w ∧
      mapper.toNeutral (ColumnType.ofFieldSchema (w.toFieldSchema "visits" (some "by day"))) =
        .ok ⟨.list (.struct [.plain "page" (.scalar .int64) false,
          .plain "at" (.scalar (.timestamp .second none)) true]), true, ∅⟩ := by
  have hmap : mapper.toWarehouse visits = .ok _ := rfl
  exact ⟨_, hmap, mapper_round_trips visits _ hmap "visits" (some "by day")⟩

/-! ## Types without a column -/

theorem scalarColumn_eq_error {s : Scalar} {e : Failure} (h : scalarColumn s = .error e) :
    ∃ type, e = .unsupportedMapping type mapperName := by
  cases s with
  | binary =>
    cases h
    exact ⟨_, rfl⟩
  | _ => cases h

theorem memberColumn_eq_error {f : Field} {e : Failure} (h : memberColumn f = .error e) :
    ∃ type, e = .unsupportedMapping type mapperName := by
  rcases f with ⟨name, type, nullable, metadata⟩
  cases type with
  | scalar s => exact scalarColumn_eq_error (Outcome.map_eq_error (Outcome.map_eq_error h))
  | _ =>
    cases h
    exact ⟨_, rfl⟩

theorem recordColumn_eq_error {members : List Field} {e : Failure}
    (h : recordColumn members = .error e) :
    ∃ type, e = .unsupportedMapping type mapperName := by
  unfold recordColumn at h
  split at h
  · cases h
    exact ⟨_, rfl⟩
  · rcases Outcome.bind_eq_error h with hcolumns | ⟨columns, -, h⟩
    · rcases Outcome.mapM_eq_error hcolumns with ⟨f, -, hf⟩
      exact memberColumn_eq_error hf
    · cases h

/-- A type that has no column is reported as unsupported, and nothing else can happen. -/
theorem toColumn_eq_error {t : NeutralType} {e : Failure} (h : toColumn t = .error e) :
    ∃ type, e = .unsupportedMapping type mapperName := by
  rcases t with ⟨type, nullable, metadata⟩
  cases type with
  | scalar s => exact scalarColumn_eq_error (Outcome.map_eq_error h)
  | struct members =>
    simp only [toColumn] at h
    split at h
    · exact recordColumn_eq_error h
    · cases h
      exact ⟨_, rfl⟩
  | list element =>
    have helement : elementColumn element = .error e := Outcome.map_eq_error h
    cases element with
    | scalar s => exact scalarColumn_eq_error helement
    | struct members => exact recordColumn_eq_error helement
    | list element =>
      cases helement
      exact ⟨_, rfl⟩

/-! ## Fields -/

/-- The field that a stored one reads back as. -/
def storedAs (f : Field) : Field :=
  .plain f.name (widened f.type) (f.type.isList || f.nullable)

@[simp] theorem storedAs_name (f : Field) : (storedAs f).name = f.name := rfl

theorem storedField_eq_ok {f : Field} {g : FieldSchema} (h : Config.storedField f = .ok g) :
    ∃ c, toColumn f.neutral = .ok c ∧
      c.toFieldSchema f.name (f.metadata.get? Metadata.descriptionKey) = g := by
  rcases Outcome.bind_eq_ok h with ⟨-, -, h⟩
  rcases Outcome.bind_eq_ok h with ⟨c, hc, h⟩
  exact ⟨c, hc, Except.ok.inj h⟩

/-- A field that cannot be stored is not reported as a column that exists. -/
theorem storedField_eq_error {f : Field} {e : Failure} (h : Config.storedField f = .error e)
    (table column : String) : e ≠ .columnAlreadyExists table column := by
  rcases Outcome.bind_eq_error h with hname | ⟨u, -, h⟩
  · rcases Identifier.validate_eq_error hname with ⟨reason, rfl⟩
    nofun
  · rcases Outcome.bind_eq_error h with hcolumn | ⟨c, -, h⟩
    · rcases toColumn_eq_error hcolumn with ⟨type, rfl⟩
      nofun
    · cases h

theorem name_of_storedField {f : Field} {g : FieldSchema} (h : Config.storedField f = .ok g) :
    g.name = f.name := by
  rcases storedField_eq_ok h with ⟨c, -, rfl⟩
  rfl

theorem existingField_of_storedField {f : Field} {g : FieldSchema}
    (h : Config.storedField f = .ok g) (hf : insideList f.metadata = false) :
    Config.existingField g = .ok (storedAs f) := by
  rcases storedField_eq_ok h with ⟨c, hc, rfl⟩
  rw [Config.existingField, neutral_of_toColumn hc hf]
  rfl

/-- A field fits the column that it was stored in. -/
theorem checker_storedAs (f : Field) : checker (storedAs f) f = none := by
  -- A list is never required, and its nullability is not compared.
  have hnull : (!((storedAs f).type.isList || f.type.isList) &&
      (storedAs f).nullable != f.nullable) = false := by
    cases hlist : f.type.isList <;> simp [storedAs, Field.plain, hlist]
  rw [checker_eq, FieldChecker.strictNullability, hnull, if_neg Bool.false_ne_true]
  simp [storedAs, Field.plain, mismatch_widened]

end BigQuery
end Ingest
