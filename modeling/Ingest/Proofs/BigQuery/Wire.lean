import Ingest.Proofs.BigQuery.RoundTrip
import Ingest.Proofs.Format.Scalars

/-!
# What BigQuery columns are sent

`FieldSchema.takes` says which values a field of a table takes: its mode decides on null and on
lists, and a record takes exactly the members that are declared for it, each as its own field says.
A column type sends every conforming value, and whatever it sends is taken by the field that the
column is created with (`format_fits_field`).
-/

namespace Ingest
namespace BigQuery

/-! ## Values that fields take -/

/-- Whether a mode allows a value, given which values are right for one entry. -/
def FieldMode.admits (one : Value → Bool) : FieldMode → Value → Bool
  | .required, v => !v.isNull && one v
  | .nullable, v => v.isNull || one v
  | .repeated, .list items => items.all fun i => !i.isNull && one i
  | .repeated, _ => false

/-- Whether a value has the shape of a type on the wire, given which members are right for a
record. Dates and timestamps are sent as texts. -/
def FieldType.wire (record : List (String × Value) → Bool) : FieldType → Value → Bool
  | .string, .string _ | .date, .string _ | .timestamp, .string _
  | .integer, .int32 _ | .integer, .int64 _
  | .float, .float32 _ | .float, .float64 _ | .boolean, .bool _ => true
  | .record, .struct members => record members
  | _, _ => false

mutual

/-- Whether a field takes a value. -/
def FieldSchema.takes : FieldSchema → Value → Bool
  | ⟨_, type, mode, _, fields⟩ =>
    mode.admits (type.wire fun members =>
      (members.map (·.1)).isPerm (fields.map (·.name)) && fieldsTake fields members)

/-- Whether fields take the members of their names. -/
def fieldsTake : List FieldSchema → List (String × Value) → Bool
  | [], _ => true
  | f :: rest, members => f.takes (Row.value members f.name) && fieldsTake rest members

end

/-- Whether members are those of a record with some fields, and each is taken by its field. -/
def isRecord (fields : List FieldSchema) (members : List (String × Value)) : Bool :=
  (members.map (·.1)).isPerm (fields.map (·.name)) && fieldsTake fields members

theorem takes_eq (f : FieldSchema) : f.takes = f.mode.admits (f.type.wire (isRecord f.fields)) := by
  cases f
  rw [FieldSchema.takes]
  rfl

theorem fieldsTake_iff {fields : List FieldSchema} {members : List (String × Value)} :
    fieldsTake fields members = true ↔
      ∀ f ∈ fields, f.takes (Row.value members f.name) = true := by
  induction fields with
  | nil => simp [fieldsTake]
  | cons f rest ih => simp [fieldsTake, ih]

theorem isRecord_iff {fields : List FieldSchema} {members : List (String × Value)} :
    isRecord fields members = true ↔ (members.map (·.1)).Perm (fields.map (·.name)) ∧
      ∀ f ∈ fields, f.takes (Row.value members f.name) = true := by
  rw [isRecord, Bool.and_eq_true, List.isPerm_iff, fieldsTake_iff]

theorem isNull_of_wire {type : FieldType} {record : List (String × Value) → Bool} {v : Value}
    (h : type.wire record v = true) : v.isNull = false := by
  cases v with
  | null => cases type <;> cases h
  | _ => rfl

/-! ## Column types that send what their field takes -/

/-- Whether a value is right for one entry of a column. -/
def ColumnType.One (c : ColumnType) (r : Value) : Prop :=
  c.type.wire (isRecord c.fields) r = true

/-- A value can be sent to the field that a column is created with, whatever its name and
description are. -/
def ColumnType.Takes (c : ColumnType) (r : Value) : Prop :=
  ∀ name description, (c.toFieldSchema name description).takes r = true

section

variable {c : ColumnType} {r : Value} {s : Scalar}

theorem takes_iff : c.Takes r ↔ c.mode.admits (c.type.wire (isRecord c.fields)) r = true := by
  simp [ColumnType.Takes, takes_eq, ColumnType.toFieldSchema]

theorem takes_of_one (h : c.One r) (hmode : c.mode ≠ .repeated) : c.Takes r := by
  rw [takes_iff]
  have hnull : r.isNull = false := isNull_of_wire h
  rw [ColumnType.One] at h
  cases hc : c.mode with
  | required => simp [FieldMode.admits, hnull, h]
  | nullable => simp [FieldMode.admits, h]
  | repeated => exact absurd hc hmode

theorem takes_optional (h : r.isNull = true ∨ c.One r) : c.optional.Takes r := by
  rw [takes_iff]
  rw [ColumnType.One] at h
  simpa [ColumnType.optional, FieldMode.admits] using h

theorem takes_repeated {items : List Value} (h : ∀ i ∈ items, c.One i) :
    c.repeated.Takes (.list items) := by
  rw [takes_iff]
  simp only [ColumnType.repeated, FieldMode.admits, List.all_eq_true]
  intro i hi
  rw [isNull_of_wire (h i hi)]
  exact h i hi

/-! ## Scalars -/

theorem sendsTexts_timestampFormatter : timestampFormatter.SendsTexts where
  total _ _ := ⟨_, rfl⟩
  text {v m r} h := by
    cases v with
    | timestamp t =>
      cases h
      exact ⟨_, rfl⟩
    | string text =>
      simp only [timestampFormatter] at h
      split at h
      · cases h
        exact ⟨text, rfl⟩
      · cases h
    | _ => cases h

theorem formatter_scalarColumn (h : scalarColumn s = .ok c) :
    Formatter.ofScalar? timestampFormatter s = some c.formatter := by
  cases s <;> cases h <;> rfl

theorem one_of_wire (h : scalarColumn s = .ok c) (hr : s.wire r = true) : c.One r := by
  cases s with
  | binary => cases h
  | _ =>
    cases h
    cases r <;> first | rfl | cases hr

/-- The column of a scalar type sends its values, each as one entry. -/
theorem sends_scalarColumn (h : scalarColumn s = .ok c) :
    c.formatter.Sends none (.scalar s) false c.One :=
  (Formatter.sends_ofScalar? sendsTexts_timestampFormatter (formatter_scalarColumn h) none).mono
    (one_of_wire h)

theorem sends_scalarOrNullColumn {nullable : Bool} (h : scalarOrNullColumn s nullable = .ok c) :
    c.formatter.Sends none (.scalar s) nullable c.Takes := by
  rcases Outcome.map_eq_ok h with ⟨c₀, hc₀, rfl⟩
  have hsends := sends_scalarColumn hc₀
  rcases scalarColumn_eq_ok hc₀ with ⟨-, hmode, -⟩
  cases nullable with
  | false => exact hsends.mono fun hr => takes_of_one hr (by simp [hmode])
  | true => exact hsends.nullPassthrough.mono takes_optional

/-! ## Records and lists -/

theorem sends_memberColumn {f : Field} {p : String × ColumnType} (h : memberColumn f = .ok p) :
    p.1 = f.name ∧ p.2.formatter.Sends none f.type f.nullable p.2.Takes := by
  rcases f with ⟨name, type, nullable, metadata⟩
  cases type with
  | scalar s =>
    rcases Outcome.map_eq_ok h with ⟨c, hc, rfl⟩
    exact ⟨rfl, sends_scalarOrNullColumn hc⟩
  | _ => cases h

/-- A column of records sends records with the members that are declared. -/
theorem sends_recordColumn {members : List Field} (hdistinct : (members.map (·.name)).Nodup)
    (h : recordColumn members = .ok c) (nullable : Bool) :
    c.formatter.Sends none (.struct members) nullable c.One := by
  rcases columns_of_recordColumn h with ⟨columns, hcolumns, rfl⟩
  have hsends := hcolumns.imp fun f p hp => sends_memberColumn hp
  refine (Formatter.Sends.struct hdistinct hsends).mono ?_
  rintro _ ⟨sent, rfl, hnames, htakes, -⟩
  refine isRecord_iff.2 ⟨?_, fun f hf => ?_⟩
  · rw [List.map_map]
    exact hnames
  · rcases List.mem_map.1 hf with ⟨p, hp, rfl⟩
    exact htakes p hp p.1 none

theorem sends_elementColumn {element : DataType} (hdistinct : element.distinctNames = true)
    (h : elementColumn element = .ok c) : c.formatter.Sends none element false c.One := by
  cases element with
  | list element => cases h
  | scalar s => exact sends_scalarColumn h
  | struct members =>
    simp only [DataType.distinctNames, Bool.and_eq_true, decide_eq_true_eq] at hdistinct
    exact sends_recordColumn hdistinct.1 h false

/-- Null is sent to a column of lists as the list without items. -/
theorem sends_repeated {element : DataType} (h : c.formatter.Sends none element false c.One)
    (nullable : Bool) :
    c.repeated.formatter.Sends none (.list element) nullable c.repeated.Takes := by
  refine h.list.mono ?_
  rintro _ ⟨sent, rfl, hsent⟩
  exact takes_repeated hsent

theorem sends_toColumn {a : NeutralType} (hdistinct : a.type.distinctNames = true)
    (h : toColumn a = .ok c) : c.formatter.Sends none a.type a.nullable c.Takes := by
  rcases a with ⟨type, nullable, metadata⟩
  cases type with
  | scalar s => exact sends_scalarOrNullColumn h
  | list element =>
    rw [DataType.distinctNames] at hdistinct
    rcases Outcome.map_eq_ok h with ⟨c₀, hc₀, rfl⟩
    exact sends_repeated (sends_elementColumn hdistinct hc₀) nullable
  | struct members =>
    simp only [DataType.distinctNames, Bool.and_eq_true, decide_eq_true_eq] at hdistinct
    have hrecord := (toColumn_struct_eq_ok h).2
    have hmode : c.mode = .nullable := (recordColumn_eq_ok hrecord).2.1
    exact (sends_recordColumn hdistinct.1 hrecord nullable).mono fun hr =>
      takes_of_one hr (by simp [hmode])

end

/-! ## What a column is sent -/

/-- Every value that belongs to a type can be sent to its column. Whatever is sent to it is taken by
the field that the column is created with and has the integers of the value; if one of them does
not fit, the value is refused. -/
theorem format_fits_field {a : NeutralType} {w : ColumnType} (h : mapper.toWarehouse a = .ok w)
    (hdistinct : a.type.distinctNames = true) :
    (∀ v, Conforms a.type a.nullable v → ∀ m, ∃ r, WarehouseType.format w v m = .ok r) ∧
    (∀ v m r, WarehouseType.format w v m = .ok r →
      (∀ name description, (w.toFieldSchema name description).takes r = true) ∧
        KeepsIntegers none a.type a.nullable v r) ∧
    ∀ v, Overflows a.type v → ∀ m, ∃ e, WarehouseType.format w v m = .error e := by
  have hsends := sends_toColumn hdistinct h
  exact ⟨fun v hv m => hsends.total hv m, fun v m r hr => ⟨hsends.shaped hr, hsends.keeps hr⟩,
    fun v hv m => hsends.refuses hv m⟩

/-- A visit without a time is sent, and one with a page number that is too large is refused. -/
theorem format_fits_field_visits :
    ∃ w, mapper.toWarehouse visits = .ok w ∧
      (∃ r, WarehouseType.format w (.list [.struct [("page", .int32 7)]]) ∅ = .ok r ∧
        (∀ name description, (w.toFieldSchema name description).takes r = true) ∧
          KeepsIntegers none visits.type false (.list [.struct [("page", .int32 7)]]) r) ∧
      ∃ e, WarehouseType.format w (.list [.struct [("page", .int64 2147483648)]]) ∅ =
        .error e := by
  have hmap : mapper.toWarehouse visits = .ok _ := rfl
  rcases format_fits_field hmap (by decide) with ⟨htotal, hshape, hrefuse⟩
  have hconforms : Conforms visits.type false (.list [.struct [("page", .int32 7)]]) := by
    refine .items (List.forall_mem_singleton.2 ?_)
    exact .members (List.forall_mem_cons.2 ⟨.scalar rfl, List.forall_mem_singleton.2 .null⟩)
  rcases htotal _ hconforms ∅ with ⟨r, hr⟩
  refine ⟨_, hmap, ⟨r, hr, hshape _ _ _ hr⟩, hrefuse _ ?_ ∅⟩
  exact .item List.mem_cons_self (.member List.mem_cons_self (.scalar rfl))

end BigQuery
end Ingest
