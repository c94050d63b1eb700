import Ingest.Proofs.ClickHouse.RoundTrip
import Ingest.Proofs.Format.Scalars

/-!
# What columns are sent

`TypeName.takes` says which values a column of a type takes: the shape on the wire. A column type
that is built for a neutral type is `Sound`: it sends every conforming value, and whatever it sends
has the shape that its column takes, holds no null and keeps every integer. Each way to build a
column type from others keeps this, so that it holds of all of them (`sound_toColumn`).
-/

namespace Ingest

namespace ClickHouse

/-! ## The shape on the wire -/

mutual

/-- Whether a column of a type takes a value. -/
def TypeName.takes : TypeName → Value → Bool
  | .named name, v => (scalarNamed? name).any fun s => s.wire v
  | .dateTime64 precision zone, v =>
    (TimeUnit.ofPrecision? precision).any fun unit => (Scalar.timestamp unit zone).wire v
  | .array element, .list items => items.all fun i => element.takes i
  | .nested columns, .list items => items.all fun i =>
      match i with
      | .struct members => (members.map (·.1)).isPerm (columns.map (·.1)) &&
          columnsTake columns members
      | _ => false
  | .lowCardinality inner, v => inner.takes v
  | .nullable inner, v => v.isNull || inner.takes v
  | _, _ => false

/-- Whether the columns take the members of their names. -/
def columnsTake : List (String × TypeName) → List (String × Value) → Bool
  | [], _ => true
  | (name, type) :: rest, members =>
    type.takes (Row.value members name) && columnsTake rest members

end

theorem takes_array {element : TypeName} {items : List Value} :
    (TypeName.array element).takes (.list items) = true ↔ ∀ i ∈ items, element.takes i = true := by
  rw [TypeName.takes, List.all_eq_true]

theorem columnsTake_iff {columns : List (String × TypeName)} {members : List (String × Value)} :
    columnsTake columns members = true ↔
      ∀ c ∈ columns, c.2.takes (Row.value members c.1) = true := by
  induction columns with
  | nil => simp [columnsTake]
  | cons c rest ih =>
    rcases c with ⟨name, type⟩
    simp [columnsTake, ih]

theorem takes_nested {columns : List (String × TypeName)} {items : List Value} :
    (TypeName.nested columns).takes (.list items) = true ↔ ∀ i ∈ items, ∃ members,
      i = .struct members ∧ (members.map (·.1)).Perm (columns.map (·.1)) ∧
        ∀ c ∈ columns, c.2.takes (Row.value members c.1) = true := by
  rw [TypeName.takes, List.all_eq_true]
  refine forall₂_congr fun i _ => ?_
  cases i with
  | struct members => simp [columnsTake_iff, List.isPerm_iff]
  | _ => simp

/-! ## Column types that send what their column takes -/

/-- A value can be sent to a column that takes it and that is not nullable in any part. -/
def ColumnType.Takes (c : ColumnType) (r : Value) : Prop :=
  c.type.takes r = true ∧ r.nullFree = true

/-- A column type sends every value that conforms to a type, and sends nothing but what its column
takes. In place of null in a column of integers it sends zero. -/
def Sound (t : DataType) (nullable : Bool) (c : ColumnType) : Prop :=
  c.formatter.Sends (some 0) t nullable c.Takes

section Scalars

variable {zones : Calendar.ZoneDatabase} {s : Scalar} {c : ColumnType}

theorem timestampFormatter_eq_ok {zone : Option Calendar.Zone} {v r : Value} {m : Metadata}
    (h : timestampFormatter zone v m = .ok r) : ∃ text, r = .string text := by
  cases v with
  | string text =>
    simp only [timestampFormatter] at h
    split at h
    · cases h
      exact ⟨_, rfl⟩
    · cases h
  | timestamp t =>
    cases h
    exact ⟨_, rfl⟩
  | int32 n =>
    cases h
    exact ⟨_, rfl⟩
  | int64 n =>
    cases h
    exact ⟨_, rfl⟩
  | _ => cases h

theorem sendsTexts_timestampFormatter (zone : Option Calendar.Zone) :
    (timestampFormatter zone).SendsTexts where
  total _ _ := ⟨_, rfl⟩
  text := timestampFormatter_eq_ok

/-- But for the zone of its timestamps, a column has the formatter that all warehouses share. -/
theorem formatter_scalarColumn (h : scalarColumn zones s = .ok c) :
    ∃ zone, Formatter.ofScalar? (timestampFormatter zone) s = some c.formatter := by
  cases s with
  | binary => cases h
  | timestamp unit zone =>
    rcases Outcome.bind_eq_ok h with ⟨z, -, h⟩
    cases h
    exact ⟨z, rfl⟩
  | _ =>
    cases h
    exact ⟨none, rfl⟩

theorem takes_of_wire (h : scalarColumn zones s = .ok c) {r : Value} (hr : s.wire r = true) :
    c.type.takes r = true := by
  cases s with
  | binary => cases h
  | timestamp unit zone =>
    rcases Outcome.bind_eq_ok h with ⟨z, -, h⟩
    cases h
    rw [TypeName.takes, TimeUnit.ofPrecision?_precision]
    exact hr
  | _ =>
    cases h
    rw [plainColumn, TypeName.takes]
    exact hr

theorem nullFree_of_wire {r : Value} (hr : s.wire r = true) : r.nullFree = true := by
  cases s <;> cases r <;> first | rfl | cases hr

theorem sound_scalarColumn (h : scalarColumn zones s = .ok c) : Sound (.scalar s) false c := by
  rcases formatter_scalarColumn h with ⟨zone, hformatter⟩
  refine (Formatter.sends_ofScalar? (sendsTexts_timestampFormatter zone) hformatter _).mono ?_
  intro r hr
  exact ⟨takes_of_wire h hr, nullFree_of_wire hr⟩

/-- The default of a column is a value of its type, and zero if the type is one of integers. -/
theorem default_scalarColumn (h : scalarColumn zones s = .ok c) :
    ∃ d, c.default = some d ∧ s.holds d.value = true ∧
      (s.isInteger = true → d.value.integer? = some 0) := by
  cases s with
  | binary => cases h
  | timestamp unit zone =>
    rcases Outcome.bind_eq_ok h with ⟨z, -, h⟩
    cases h
    exact ⟨_, rfl, rfl, nofun⟩
  | _ =>
    cases h
    exact ⟨_, rfl, rfl, by decide⟩

end Scalars

/-! ## Column types built from others -/

section Composites

variable {zones : Calendar.ZoneDatabase} {t : DataType} {nullable : Bool} {c : ColumnType}

theorem Sound.dictionaryEncoded (h : Sound t nullable c) : Sound t nullable c.dictionaryEncoded :=
  h.mono fun hr => by
    rwa [ColumnType.Takes, ColumnType.dictionaryEncoded, TypeName.takes]

/-- A column of a scalar type with its default is sent the default where there is null. -/
theorem Sound.withDefault {s : Scalar} {d : Default} (h : Sound (.scalar s) false c)
    (hdefault : c.default = some d) (hholds : s.holds d.value = true)
    (hzero : s.isInteger = true → d.value.integer? = some 0) :
    Sound (.scalar s) true c.withDefault where
  total {v} hv m := by
    cases hv with
    | null =>
      simp only [ColumnType.withDefault, hdefault]
      exact h.total (.scalar hholds) m
    | scalar hs =>
      simp only [ColumnType.withDefault, Formatter.nullAs, Scalar.isNull_of_holds hs]
      exact h.total (.scalar hs) m
  shaped {v m r} hr := by
    simp only [ColumnType.withDefault, Formatter.nullAs] at hr
    split at hr <;> exact h.shaped hr
  keeps {v m r} hr := by
    simp only [ColumnType.withDefault, Formatter.nullAs, hdefault] at hr
    split at hr
    · rename_i hnull
      cases Value.eq_null_of_isNull hnull
      cases h.keeps hr with
      | other hs => exact .other hs
      | same hd hsent _ =>
        -- What is sent for null is what is sent for the default.
        cases hs : s.isInteger with
        | false => exact .other hs
        | true =>
          refine .null ?_
          calc
            r.integer? = some _ := hsent
            _ = d.value.integer? := hd.symm
            _ = some 0 := hzero hs
    · exact (h.keeps hr).of_required true

theorem Sound.array (h : Sound t false c) : Sound (.list t) nullable (arrayColumn c) := by
  refine (Formatter.Sends.list h).mono ?_
  rintro _ ⟨sent, rfl, hsent⟩
  exact ⟨takes_array.2 fun s hs => (hsent s hs).1, Value.nullFree_list.2 fun s hs => (hsent s hs).2⟩

theorem sound_memberColumn {s : Scalar} (h : memberColumn zones s nullable = .ok c) :
    Sound (.scalar s) nullable c := by
  rcases Outcome.map_eq_ok h with ⟨c₀, hc₀, rfl⟩
  cases nullable with
  | false => exact sound_scalarColumn hc₀
  | true =>
    rcases default_scalarColumn hc₀ with ⟨d, hd, hholds, hzero⟩
    exact (sound_scalarColumn hc₀).withDefault hd hholds hzero

theorem sound_partColumn {f : Field} {p : String × ColumnType}
    (h : partColumn zones f = .ok p) : p.1 = f.name ∧ Sound f.type f.nullable p.2 := by
  unfold partColumn at h
  split at h
  · rename_i s hs
    rcases Outcome.map_eq_ok h with ⟨c, hc, rfl⟩
    rw [eq_scalar_of_nestable hs]
    exact ⟨rfl, sound_memberColumn hc⟩
  · cases h

/-- A column of records sends lists of records, part by part. -/
theorem formatter_nestedColumn {fields : List Field} (h : nestedColumn zones fields = .ok c) :
    ∃ parts, List.Forall₂ (fun f p => partColumn zones f = .ok p) fields parts ∧
      c.type = .nested (parts.map fun p => (p.1, p.2.type)) ∧
      c.formatter = .list (.struct (parts.map fun p => (p.1, p.2.formatter))) := by
  unfold nestedColumn at h
  split at h
  · cases h
  · rcases Outcome.bind_eq_ok h with ⟨parts, hparts, h⟩
    cases h
    exact ⟨parts, Outcome.mapM_eq_ok_iff.1 hparts, rfl, rfl⟩

theorem sound_nestedColumn {fields : List Field} (hdistinct : (fields.map (·.name)).Nodup)
    (h : nestedColumn zones fields = .ok c) : Sound (.list (.struct fields)) nullable c := by
  rcases formatter_nestedColumn h with ⟨parts, hparts, htype, hformatter⟩
  have hsound : List.Forall₂ (fun f p => p.1 = f.name ∧
      p.2.formatter.Sends (some 0) f.type f.nullable p.2.Takes) fields parts :=
    hparts.imp fun f p hpart => sound_partColumn hpart
  -- The members are checked by their names, and that none is null by going through what is sent.
  rw [Sound, hformatter]
  refine (Formatter.Sends.struct hdistinct hsound).list.mono ?_
  rintro _ ⟨records, rfl, hrecords⟩
  rw [ColumnType.Takes, htype]
  refine ⟨takes_nested.2 fun r hr => ?_, Value.nullFree_list.2 fun r hr => ?_⟩
  · rcases hrecords r hr with ⟨sent, rfl, hnames, hparts, -⟩
    refine ⟨sent, rfl, ?_, ?_⟩
    · rw [List.map_map]
      exact hnames
    · rintro q hq
      rcases List.mem_map.1 hq with ⟨p, hp, rfl⟩
      exact (hparts p hp).1
  · rcases hrecords r hr with ⟨sent, rfl, -, -, honly⟩
    refine Value.nullFree_struct.2 fun e he => ?_
    rcases honly e he with ⟨p, -, hp⟩
    exact hp.2

theorem sound_listColumn (element : DataType) (hdistinct : element.distinctNames = true)
    {c : ColumnType} (h : listColumn zones element = .ok c) (nullable : Bool) :
    Sound (.list element) nullable c :=
  match element with
  | .scalar s => by
    rcases Outcome.map_eq_ok h with ⟨c₀, hc₀, rfl⟩
    exact (sound_scalarColumn hc₀).array
  | .list element => by
    rw [DataType.distinctNames] at hdistinct
    rw [listColumn] at h
    rcases Outcome.map_eq_ok h with ⟨c₀, hc₀, rfl⟩
    exact (sound_listColumn element hdistinct hc₀ false).array
  | .struct fields => by
    simp only [DataType.distinctNames, Bool.and_eq_true, decide_eq_true_eq] at hdistinct
    exact sound_nestedColumn hdistinct.1 h

theorem sound_toColumn {a : NeutralType} (hdistinct : a.type.distinctNames = true)
    (h : toColumn zones a = .ok c) : Sound a.type a.nullable c := by
  rcases a with ⟨type, nullable, metadata⟩
  cases type with
  | struct fields => cases h
  | list element =>
    rw [DataType.distinctNames] at hdistinct
    exact sound_listColumn element hdistinct h nullable
  | scalar s =>
    rcases Outcome.map_eq_ok h with ⟨c₀, hc₀, rfl⟩
    have hplain := sound_scalarColumn hc₀
    have hencoded := hplain.dictionaryEncoded
    rcases default_scalarColumn hc₀ with ⟨d, hd, hholds, hzero⟩
    cases metadata.flag Metadata.lowCardinalityKey <;> cases nullable
    · exact hplain
    · exact hplain.withDefault hd hholds hzero
    · exact hencoded
    · exact hencoded.withDefault hd hholds hzero

end Composites

/-! ## What a column is sent -/

/-- Every value that belongs to a type can be sent to its column. Whatever is sent to it is taken by
the column, holds no null and has the integers of the value; if one of them does not fit, the
value is refused. -/
theorem format_fits_column (zones : Calendar.ZoneDatabase) {a : NeutralType} {w : ColumnType}
    (h : (mapper zones).toWarehouse a = .ok w) (hdistinct : a.type.distinctNames = true) :
    (∀ v, Conforms a.type a.nullable v → ∀ m, ∃ r, WarehouseType.format w v m = .ok r) ∧
    (∀ v m r, WarehouseType.format w v m = .ok r →
      w.type.takes r = true ∧ r.nullFree = true ∧
        KeepsIntegers (some 0) a.type a.nullable v r) ∧
    ∀ v, Overflows a.type v → ∀ m, ∃ e, WarehouseType.format w v m = .error e := by
  have hsound := sound_toColumn hdistinct h
  refine ⟨fun v hv m => hsound.total hv m, fun v m r hr => ?_, fun v hv m => hsound.refuses hv m⟩
  rcases hsound.shaped hr with ⟨htakes, hnull⟩
  exact ⟨htakes, hnull, hsound.keeps hr⟩

/-- Lists of records with a number and, if it is known, an instant. -/
def readings : NeutralType :=
  ⟨.list (.struct [.plain "count" (.scalar .int32) false,
    .plain "at" (.scalar (.timestamp .millisecond none)) true]), true, ∅⟩

/-- A reading without an instant is sent, and one with a number that is too large is refused. -/
theorem format_fits_column_readings :
    ∃ w, (mapper fun _ => none).toWarehouse readings = .ok w ∧
      (∃ r, WarehouseType.format w (.list [.struct [("count", .int32 7)]]) ∅ = .ok r ∧
        w.type.takes r = true ∧ r.nullFree = true ∧
          KeepsIntegers (some 0) readings.type true (.list [.struct [("count", .int32 7)]]) r) ∧
      ∃ e, WarehouseType.format w (.list [.struct [("count", .int64 2147483648)]]) ∅ =
        .error e := by
  have hmap : (mapper fun _ => none).toWarehouse readings = .ok _ := rfl
  rcases format_fits_column (fun _ => none) hmap (by decide) with ⟨htotal, hshape, hrefuse⟩
  have hconforms : Conforms readings.type true (.list [.struct [("count", .int32 7)]]) := by
    refine .items (List.forall_mem_singleton.2 ?_)
    exact .members (List.forall_mem_cons.2 ⟨.scalar rfl, List.forall_mem_singleton.2 .null⟩)
  rcases htotal _ hconforms ∅ with ⟨r, hr⟩
  refine ⟨_, hmap, ⟨r, hr, hshape _ _ _ hr⟩, hrefuse _ ?_ ∅⟩
  exact .item List.mem_cons_self (.member List.mem_cons_self (.scalar rfl))

end ClickHouse
end Ingest
