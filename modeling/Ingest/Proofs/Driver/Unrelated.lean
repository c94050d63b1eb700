import Ingest.Proofs.BigQuery.Convergence
import Ingest.Proofs.ClickHouse.Requests

/-!
# Columns that a schema does not name

Two tables that agree on the columns that a schema names have the same columns missing, whatever
other columns they have, as long as these can be read. All columns are read before any is
compared, so that one that cannot be read is reported in place of what is missing
(`missingColumns_eq_iff`).
-/

namespace Ingest

/-- What a comparison finds depends on the fields that the schema names. -/
theorem missingColumns_congr {table : String} {first second : FieldIndex} {checker : FieldChecker}
    {s : Schema} (h : ∀ f ∈ s.fields, first f.name = second f.name) :
    missingColumns table first checker s = missingColumns table second checker s := by
  have hconflicts : conflicts table first checker s = conflicts table second checker s :=
    List.filterMap_congr fun f hf => by rw [h f hf]
  have habsent : absentFields first s = absentFields second s :=
    List.filter_congr fun f hf => by rw [h f hf]
  rw [missingColumns, missingColumns, hconflicts, habsent]

/-! ## Reading columns -/

section Reading

variable {C : Type} {nameOf : C → String} {read : C → Outcome Field} {columns : List C}

/-- How the first column fails that cannot be read. -/
def unreadable? (read : C → Outcome Field) (columns : List C) : Option Failure :=
  columns.findSome? fun c =>
    match read c with
    | .ok _ => none
    | .error e => some e

/-- Reading a column keeps its name, or reports a type that is not supported. -/
structure Reader (nameOf : C → String) (read : C → Outcome Field) : Prop where
  name : ∀ {c f}, read c = .ok f → f.name = nameOf c
  refused : ∀ {c e}, read c = .error e → ∃ type mapper, e = .unsupportedMapping type mapper

/-- Reading all columns fails as the first one does that fails. -/
theorem mapM_of_unreadable {e : Failure} (h : unreadable? read columns = some e) :
    columns.mapM read = .error e := by
  induction columns with
  | nil => cases h
  | cons c rest ih =>
    rw [unreadable?, List.findSome?_cons] at h
    rw [List.mapM_cons]
    cases hc : read c with
    | error e' =>
      rw [hc] at h
      cases h
      rfl
    | ok f =>
      rw [hc] at h
      rw [ih h]
      rfl

theorem mapM_of_readable (h : unreadable? read columns = none) :
    ∃ fields, columns.mapM read = .ok fields := by
  cases hm : columns.mapM read with
  | ok fields => exact ⟨fields, rfl⟩
  | error e =>
    rcases Outcome.mapM_eq_error hm with ⟨c, hc, hread⟩
    have hnone := List.findSome?_eq_none_iff.1 h c hc
    rw [hread] at hnone
    cases hnone

theorem unsupported_of_unreadable (r : Reader nameOf read) {e : Failure}
    (h : unreadable? read columns = some e) : ∃ type mapper, e = .unsupportedMapping type mapper := by
  rcases Outcome.mapM_eq_error (mapM_of_unreadable h) with ⟨c, -, hread⟩
  exact r.refused hread

/-- The fields of a table are found by the names of its columns. -/
theorem Reader.indexFields (r : Reader nameOf read) (hnodup : (columns.map nameOf).Nodup)
    {fields : List Field} (h : columns.mapM read = .ok fields) :
    (∀ c ∈ columns, ∃ f, read c = .ok f ∧ indexFields fields (nameOf c) = some f) ∧
      ∀ name ∉ columns.map nameOf, indexFields fields name = none := by
  have hfields := Outcome.mapM_eq_ok_iff.1 h
  have hnames : fields.map (·.name) = columns.map nameOf :=
    Outcome.map_eq_of_forall₂ (fun c f hf => r.name hf) hfields
  refine ⟨fun c hc => ?_, fun name hname => ?_⟩
  · rcases Outcome.exists_of_forall₂ hfields.flip hc with ⟨f, hf, hread⟩
    refine ⟨f, hread, ?_⟩
    rw [← r.name hread]
    exact indexFields_of_mem (hnames ▸ hnodup) hf
  · exact indexFields_eq_none_iff.2 (hnames ▸ hname)

end Reading

/-! ## Tables that agree -/

section Comparing

variable {C : Type} {nameOf : C → String} {read : C → Outcome Field} {s : Schema}
  {first second : List C}

/-- Two lists of columns with distinct names have the same ones among those that a schema names. -/
structure AgreeOn (nameOf : C → String) (s : Schema) (first second : List C) : Prop where
  firstNodup : (first.map nameOf).Nodup
  secondNodup : (second.map nameOf).Nodup
  same : ∀ c, nameOf c ∈ s.names → (c ∈ first ↔ c ∈ second)

/-- A table with more columns agrees with the smaller one if the schema does not name them. -/
theorem AgreeOn.append {others : List C} (hnodup : ((first ++ others).map nameOf).Nodup)
    (hothers : ∀ c ∈ others, nameOf c ∉ s.names) :
    AgreeOn nameOf s first (first ++ others) where
  firstNodup := hnodup.sublist ((List.sublist_append_left first others).map nameOf)
  secondNodup := hnodup
  same c hname := by
    rw [List.mem_append]
    exact ⟨.inl, fun hc => hc.resolve_right fun hother => hothers c hother hname⟩

/-- What is missing in a table of some columns, if they can all be read. -/
def comparison (read : C → Outcome Field) (table : String) (checker : FieldChecker) (s : Schema)
    (columns : List C) : Outcome (List Field) := do
  let existing ← columns.mapM read
  missingColumns table (indexFields existing) checker s

/-- Tables that agree on what a schema names have the same fields of these names. -/
theorem AgreeOn.indexFields_eq (a : AgreeOn nameOf s first second) (r : Reader nameOf read)
    {fields others : List Field} (hfirst : first.mapM read = .ok fields)
    (hsecond : second.mapM read = .ok others) {name : String} (hname : name ∈ s.names) :
    indexFields fields name = indexFields others name := by
  rcases r.indexFields a.firstNodup hfirst with ⟨hfound, hnone⟩
  rcases r.indexFields a.secondNodup hsecond with ⟨hfound', hnone'⟩
  by_cases h : name ∈ first.map nameOf
  · rcases List.mem_map.1 h with ⟨c, hc, rfl⟩
    rcases hfound c hc with ⟨f, hf, hindex⟩
    rcases hfound' c ((a.same c hname).1 hc) with ⟨f', hf', hindex'⟩
    rw [hf] at hf'
    cases hf'
    rw [hindex, hindex']
  · have h' : name ∉ second.map nameOf := by
      intro hmem
      rcases List.mem_map.1 hmem with ⟨c, hc, rfl⟩
      exact h (List.mem_map_of_mem ((a.same c hname).2 hc))
    rw [hnone name h, hnone' name h']

/-- A comparison does not report a type that is not supported. -/
theorem missingColumns_ne_unsupported {table : String} {existing : FieldIndex}
    {checker : FieldChecker} (type mapper : String) :
    missingColumns table existing checker s ≠ .error (.unsupportedMapping type mapper) := by
  unfold missingColumns
  split <;> nofun

/-- Tables that agree on what a schema names compare alike exactly if the first columns of them that
cannot be read, if there are any, fail alike. -/
theorem AgreeOn.comparison_eq_iff (a : AgreeOn nameOf s first second) (r : Reader nameOf read)
    {table : String} {checker : FieldChecker} :
    comparison read table checker s first = comparison read table checker s second ↔
      unreadable? read first = unreadable? read second := by
  unfold comparison
  cases hfirst : unreadable? read first with
  | none =>
    rcases mapM_of_readable hfirst with ⟨fields, hfields⟩
    cases hsecond : unreadable? read second with
    | none =>
      rcases mapM_of_readable hsecond with ⟨others, hothers⟩
      rw [hfields, hothers]
      refine iff_of_true (missingColumns_congr fun f hf => ?_) rfl
      exact a.indexFields_eq r hfields hothers (List.mem_map_of_mem hf)
    | some e =>
      -- No comparison fails as reading a column does, so that the two differ.
      rcases unsupported_of_unreadable r hsecond with ⟨type, mapper, rfl⟩
      rw [hfields, mapM_of_unreadable hsecond]
      exact iff_of_false (missingColumns_ne_unsupported type mapper) nofun
  | some e =>
    rw [mapM_of_unreadable hfirst]
    cases hsecond : unreadable? read second with
    | none =>
      rcases unsupported_of_unreadable r hfirst with ⟨type, mapper, rfl⟩
      rcases mapM_of_readable hsecond with ⟨others, hothers⟩
      rw [hothers]
      exact iff_of_false (missingColumns_ne_unsupported type mapper).symm nofun
    | some e' =>
      rw [mapM_of_unreadable hsecond]
      constructor <;> rintro ⟨⟩ <;> rfl

end Comparing

/-! ## BigQuery -/

namespace BigQuery

open Effect

mutual

theorem neutral_eq_error (f : FieldSchema) {e : Failure} (h : f.neutral = .error e) :
    ∃ type, e = .unsupportedMapping type mapperName :=
  match f with
  | ⟨name, type, mode, description, fields⟩ => by
    by_cases hrecord : type = .record
    · rw [hrecord, FieldSchema.neutral] at h
      rcases Outcome.bind_eq_error h with hfields | ⟨members, -, h⟩
      · exact memberFields_eq_error fields hfields
      · cases h
    · rw [FieldSchema.neutral] at h
      · have hplain := Outcome.map_eq_error h
        unfold plainNeutral at hplain
        split at hplain <;> cases hplain
        exact ⟨_, rfl⟩
      · exact hrecord

theorem memberFields_eq_error (fields : List FieldSchema) {e : Failure}
    (h : memberFields fields = .error e) : ∃ type, e = .unsupportedMapping type mapperName :=
  match fields with
  | [] => by
    rw [memberFields] at h
    cases h
  | f :: rest => by
    rw [memberFields] at h
    rcases Outcome.bind_eq_error h with hf | ⟨t, -, h⟩
    · exact neutral_eq_error f hf
    · rcases Outcome.bind_eq_error h with hrest | ⟨members, -, h⟩
      · exact memberFields_eq_error rest hrest
      · cases h

end

theorem reader_existingField : Reader (·.name) Config.existingField where
  name := name_of_existingField
  refused {f e} h := by
    rcases neutral_eq_error f (Outcome.map_eq_error h) with ⟨type, rfl⟩
    exact ⟨type, mapperName, rfl⟩

/-- The service tells the columns of a table in time. -/
structure Told {σ : Type} (config : Config) (client : Client σ) (table : String) (c : Clocked σ)
    (columns : List FieldSchema) : Prop where
  answer : ∃ t, (client.tableMetadata config.dataset table c.server).1.answer = .ok t ∧
    t.schema = columns
  inTime : (client.tableMetadata config.dataset table c.server).1.delay ≤ config.queryTimeoutMs

theorem Told.run_missingColumns {σ : Type} {config : Config} {client : Client σ} {table : String}
    {c : Clocked σ} {columns : List FieldSchema} (h : Told config client table c columns)
    (s : Schema) :
    ((config.missingColumns client table s).run c).1 =
      comparison Config.existingField (config.qualified table) checker s columns := by
  rcases h.answer with ⟨t, ht, rfl⟩
  have hcall : (Action.timed config "table metadata"
      (client.tableMetadata config.dataset table)).run c = (.ok _, _) :=
    Effect.run_timed_of_le h.inTime
  rw [ht] at hcall
  have hlook : (config.tableMetadata client table).run c = (.ok t, _) := run_bind_of_ok hcall
  rw [Config.missingColumns, run_bind_of_ok hlook]
  rfl

end BigQuery

/-! ## ClickHouse -/

namespace ClickHouse

open Effect

mutual

theorem neutralOf_eq_error (t : TypeName) {e : Failure} (h : neutralOf t = .error e) :
    ∃ type, e = .unsupportedMapping type mapperName :=
  match t with
  | .named name => by
    rw [neutralOf] at h
    split at h <;> cases h
    exact ⟨_, rfl⟩
  | .dateTime64 precision zone => by
    rw [neutralOf] at h
    split at h <;> cases h
    exact ⟨_, rfl⟩
  | .array element => by
    rw [neutralOf] at h
    rcases Outcome.bind_eq_error h with helement | ⟨t, -, h⟩
    · exact neutralOf_eq_error element helement
    · cases h
  | .nested columns => by
    rw [neutralOf] at h
    rcases Outcome.bind_eq_error h with hcolumns | ⟨fields, -, h⟩
    · exact neutralFields_eq_error columns hcolumns
    · cases h
  | .nullable inner => by
    rw [neutralOf] at h
    split at h
    · cases h
      exact ⟨_, rfl⟩
    · rcases Outcome.bind_eq_error h with hinner | ⟨t, -, h⟩
      · exact neutralOf_eq_error inner hinner
      · cases h
  | .lowCardinality inner => by
    rw [neutralOf] at h
    exact neutralOf_eq_error inner h
  | .other text => by
    rw [neutralOf] at h
    cases h
    exact ⟨_, rfl⟩

theorem neutralFields_eq_error (columns : List (String × TypeName)) {e : Failure}
    (h : neutralFields columns = .error e) : ∃ type, e = .unsupportedMapping type mapperName :=
  match columns with
  | [] => by
    rw [neutralFields] at h
    cases h
  | (name, type) :: rest => by
    rw [neutralFields] at h
    rcases Outcome.bind_eq_error h with htype | ⟨t, -, h⟩
    · exact neutralOf_eq_error type htype
    · rcases Outcome.bind_eq_error h with hrest | ⟨fields, -, h⟩
      · exact neutralFields_eq_error rest hrest
      · cases h

end

theorem ofText_eq_error {text : String} {e : Failure} (h : ColumnType.ofText text = .error e) :
    ∃ type, e = .unsupportedMapping type mapperName := by
  unfold ColumnType.ofText at h
  split at h <;> cases h
  exact ⟨_, rfl⟩

theorem reader_existingField : Reader (·.name) Setup.existingField where
  name h := (existingField_eq_ok h).1
  refused {c e} h := by
    rcases Outcome.bind_eq_error h with htext | ⟨t, -, h⟩
    · rcases ofText_eq_error htext with ⟨type, rfl⟩
      exact ⟨type, mapperName, rfl⟩
    · rcases Outcome.bind_eq_error h with hneutral | ⟨n, -, h⟩
      · rcases neutralOf_eq_error t.type hneutral with ⟨type, rfl⟩
        exact ⟨type, mapperName, rfl⟩
      · cases h

/-- The server tells the columns of a table in time, none of which has a full stop in its name. -/
structure Told {σ : Type} (setup : Setup) (client : Client σ) (table : String) (c : Session σ)
    (columns : List ColumnInfo) : Prop where
  answer : (client.columns setup.config.database table c.server).1.answer = .ok columns
  inTime : (client.columns setup.config.database table c.server).1.delay ≤
    setup.config.queryTimeoutMs
  exist : columns ≠ []
  whole : ∀ info ∈ columns, '.' ∉ info.name.toList

theorem Told.run_missingColumns {σ : Type} {setup : Setup} {client : Client σ} {table : String}
    {c : Session σ} {columns : List ColumnInfo} (h : Told setup client table c columns)
    (s : Schema) :
    ((setup.missingColumns client table s).run c).1 =
      comparison Setup.existingField (setup.qualified table) checker s columns := by
  rcases Setup.run_columnInfo h.exist h.answer h.inTime with ⟨c', hlook⟩
  have hfold : foldColumns columns = columns := by
    refine foldColumns_of_whole fun info hinfo => flatPart?_eq_none_iff.2 ?_
    exact fun hpart => h.whole info hinfo hpart.1
  rw [hfold] at hlook
  rw [Setup.missingColumns, run_bind_of_ok hlook]
  rfl

end ClickHouse

/-! ## Both drivers -/

/-- Two tables that agree on the columns that a schema names are compared with it alike exactly if
the first columns of them that cannot be read, if there are any, fail alike. -/
theorem missingColumns_eq_iff (table : String) (s : Schema) :
    (∀ {σ τ : Type} (config : BigQuery.Config) (client : BigQuery.Client σ)
      (other : BigQuery.Client τ) (c : Clocked σ) (d : Clocked τ)
      (first second : List BigQuery.FieldSchema),
      BigQuery.Told config client table c first → BigQuery.Told config other table d second →
      AgreeOn (·.name) s first second →
      (((config.missingColumns client table s).run c).1 =
          ((config.missingColumns other table s).run d).1 ↔
        unreadable? BigQuery.Config.existingField first =
          unreadable? BigQuery.Config.existingField second)) ∧
    ∀ {σ τ : Type} (setup : ClickHouse.Setup) (client : ClickHouse.Client σ)
      (other : ClickHouse.Client τ) (c : ClickHouse.Session σ) (d : ClickHouse.Session τ)
      (first second : List ClickHouse.ColumnInfo),
      ClickHouse.Told setup client table c first → ClickHouse.Told setup other table d second →
      AgreeOn (·.name) s first second →
      (((setup.missingColumns client table s).run c).1 =
          ((setup.missingColumns other table s).run d).1 ↔
        unreadable? ClickHouse.Setup.existingField first =
          unreadable? ClickHouse.Setup.existingField second) := by
  constructor
  · intro σ τ config client other c d first second hfirst hsecond hagree
    rw [hfirst.run_missingColumns, hsecond.run_missingColumns]
    exact hagree.comparison_eq_iff BigQuery.reader_existingField
  · intro σ τ setup client other c d first second hfirst hsecond hagree
    rw [hfirst.run_missingColumns, hsecond.run_missingColumns]
    exact hagree.comparison_eq_iff ClickHouse.reader_existingField

/-- The schema of a name and a number. -/
def pair : Schema :=
  ⟨[.plain "a" (.scalar .string) false, .plain "b" (.scalar .int64) true], by decide⟩

/-- A column that can be read makes no difference. -/
theorem missingColumns_eq_iff_readable :
    let config : BigQuery.Config := { projectId := "p", dataset := "d" }
    let setup : ClickHouse.Setup := ⟨{ database := "d" }, fun _ => none⟩
    let a : BigQuery.FieldSchema := ⟨"a", .string, .required, none, []⟩
    let x : BigQuery.FieldSchema := ⟨"x", .record, .repeated, none, [a]⟩
    let a' : ClickHouse.ColumnInfo := ⟨"a", "String", ""⟩
    let x' : ClickHouse.ColumnInfo := ⟨"x", "Nested(a Int32)", ""⟩
    ((config.missingColumns BigQuery.keeper "t" pair).run ⟨some [a], 0⟩).1 =
        ((config.missingColumns BigQuery.keeper "t" pair).run ⟨some [a, x], 0⟩).1 ∧
      ((setup.missingColumns ClickHouse.described "t" pair).run ⟨⟨[a'], 0⟩, []⟩).1 =
        ((setup.missingColumns ClickHouse.described "t" pair).run ⟨⟨[a', x'], 0⟩, []⟩).1 := by
  intro config setup a x a' x'
  rcases missingColumns_eq_iff "t" pair with ⟨hbig, hclick⟩
  constructor
  · have htold : ∀ columns, BigQuery.Told config BigQuery.keeper "t" ⟨some columns, 0⟩ columns :=
      fun columns => ⟨⟨_, rfl, rfl⟩, Nat.zero_le _⟩
    have hagree : AgreeOn (·.name) pair [a] ([a] ++ [x]) :=
      .append (by decide) (List.forall_mem_singleton.2 (by decide))
    exact (hbig config _ _ _ _ _ _ (htold _) (htold _) hagree).2 rfl
  · have hfirst : ClickHouse.Told setup ClickHouse.described "t" ⟨⟨[a'], 0⟩, []⟩ [a'] :=
      ⟨rfl, Nat.zero_le _, List.cons_ne_nil _ _, by decide⟩
    have hsecond : ClickHouse.Told setup ClickHouse.described "t" ⟨⟨[a', x'], 0⟩, []⟩ [a', x'] :=
      ⟨rfl, Nat.zero_le _, List.cons_ne_nil _ _, by decide⟩
    have hagree : AgreeOn (·.name) pair [a'] ([a'] ++ [x']) :=
      .append (by decide) (List.forall_mem_singleton.2 (by decide))
    exact (hclick setup _ _ _ _ _ _ hfirst hsecond hagree).2 (by decide +kernel)

/-- A column of bytes, which the schema does not name, hides what is missing. -/
theorem missingColumns_hidden_by_bytes :
    let config : BigQuery.Config := { projectId := "p", dataset := "d" }
    let a : BigQuery.FieldSchema := ⟨"a", .string, .required, none, []⟩
    let blob : BigQuery.FieldSchema := ⟨"blob", .bytes, .nullable, none, []⟩
    AgreeOn (·.name) pair [a] [a, blob] ∧
      ((config.missingColumns BigQuery.keeper "t" pair).run ⟨some [a], 0⟩).1 =
        .ok [.plain "b" (.scalar .int64) true] ∧
      ((config.missingColumns BigQuery.keeper "t" pair).run ⟨some [a, blob], 0⟩).1 =
        .error (.unsupportedMapping "REQUIRED BYTES" "bigquery") := by
  intro config a blob
  have hagree : AgreeOn (·.name) pair [a] ([a] ++ [blob]) :=
    .append (by decide) (List.forall_mem_singleton.2 (by decide))
  exact ⟨hagree, rfl, rfl⟩

end Ingest
