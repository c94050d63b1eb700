import Ingest.Proofs.ClickHouse.Requests
import Ingest.Proofs.Format.Row
import Mathlib.Data.List.Perm.Subperm

/-!
# Where inserted values go

The columns of an insert are the fields of the schema in the order of the table, and every value
stands under the name of the field that it was sent for (`placed_batch`). The layout check
compares only how many columns there are and whether the schema has a field for each of them; as no
name occurs twice, this leaves no field without a column.
-/

namespace Ingest
namespace ClickHouse

open Effect

variable {σ : Type}

/-! ## Taking values out of a row -/

/-- The values of a row in the order of columns, each taken out of the row, if there is one for
every column. -/
def takeOut : List String → Row → Option (List Value)
  | [], _ => some []
  | c :: rest, row => do
    let v ← Dict.get? row c
    let values ← takeOut rest (Dict.erase row c)
    return v :: values

theorem takeOut_of_forall₂ {columns : List String} {row : Row} {values : List Value}
    (hnodup : columns.Nodup)
    (h : List.Forall₂ (fun c v => Dict.get? row c = some v) columns values) :
    takeOut columns row = some values := by
  induction columns generalizing row values with
  | nil =>
    cases h
    rfl
  | cons c rest ih =>
    rcases h with _ | ⟨hv, hrest⟩
    rcases List.nodup_cons.1 hnodup with ⟨hc, hnodup⟩
    -- No later column has the name of the one that was taken out.
    have hlater : ∀ c' ∈ rest, ∀ v, Dict.get? row c' = some v →
        Dict.get? (Dict.erase row c) c' = some v := by
      intro c' hc' v hv'
      rwa [Dict.get?_erase_of_ne (ne_of_mem_of_not_mem hc' hc)]
    have hrest : List.Forall₂ (fun c' v => Dict.get? (Dict.erase row c) c' = some v) rest _ :=
      ((List.forall₂_and_left _ _).2 ⟨fun _ => id, hrest⟩).imp fun c' v h => hlater c' h.1 v h.2
    rw [takeOut, hv, ih hnodup hrest]
    rfl

/-- Where there is a value for every column, none is replaced by null. -/
theorem layOut_of_takeOut {columns : List String} {row : Row} {values : List Value}
    (h : takeOut columns row = some values) : Setup.layOut columns row = values := by
  induction columns generalizing row values with
  | nil => exact Option.some.inj h
  | cons c rest ih =>
    rw [takeOut] at h
    rcases Option.bind_eq_some_iff.1 h with ⟨v, hv, h⟩
    rcases Option.bind_eq_some_iff.1 h with ⟨others, hothers, h⟩
    cases h
    rw [Setup.layOut, Row.value, hv, ih hothers]
    rfl

/-! ## The layout check -/

section Layout

variable {setup : Setup} {table : String} {schema : Schema} {columns : List String}

theorem mem_names_of_checkLayout (h : setup.checkLayout table schema columns = .ok ()) :
    columns.length = schema.names.length ∧ ∀ c ∈ columns, c ∈ schema.names := by
  unfold Setup.checkLayout at h
  simp only at h
  split at h
  · cases h
  · rename_i hlength
    split at h
    · cases h
    · rename_i hfound
      refine ⟨?_, ?_⟩
      · simpa [Schema.names] using hlength
      · intro c hc
        have hsome := List.find?_eq_none.1 hfound c hc
        simpa [Schema.field?, Schema.names] using hsome

/-- Columns that fit a schema are its fields in some order. -/
theorem perm_of_checkLayout (hnodup : columns.Nodup)
    (h : setup.checkLayout table schema columns = .ok ()) : columns.Perm schema.names := by
  rcases mem_names_of_checkLayout h with ⟨hlength, hmem⟩
  have hsub : List.Subperm columns schema.names := hnodup.subperm hmem
  exact hsub.perm_of_length_le hlength.ge

/-! ## Rows -/

/-- The values of a row stand under the columns: each is what the field of the column's name is
sent as, and each was taken out of the formatted row. -/
structure RowPlaced (zones : Calendar.ZoneDatabase) (schema : Schema) (columns : List String)
    (row : Row) (values : List Value) : Prop where
  sent : List.Forall₂ (fun name v => ∃ f ∈ schema.fields, f.name = name ∧
    RowFormat.sentValue (mapper zones) f row = .ok v) columns values
  taken : ∃ format out, RowFormat.ofSchema (mapper zones) schema = .ok format ∧
    format.format row = .ok out ∧ takeOut columns out = some values

variable {zones : Calendar.ZoneDatabase} {format : RowFormat ColumnType} {row out : Row}

theorem rowPlaced_layOut (hformat : RowFormat.ofSchema (mapper zones) schema = .ok format)
    (hnodup : columns.Nodup) (hmem : ∀ c ∈ columns, c ∈ schema.names)
    (hout : format.format row = .ok out) :
    RowPlaced zones schema columns row (Setup.layOut columns out) := by
  have hvalue : ∀ c ∈ columns, ∃ v, Dict.get? out c = some v ∧ ∃ f ∈ schema.fields, f.name = c ∧
      RowFormat.sentValue (mapper zones) f row = .ok v := by
    intro c hc
    rcases List.mem_map.1 (hmem c hc) with ⟨f, hf, rfl⟩
    rcases RowFormat.get?_of_format hformat hout hf with ⟨v, hv, hget⟩
    exact ⟨v, hget, f, hf, rfl, hv⟩
  rcases Outcome.exists_forall₂ hvalue with ⟨values, hvalues⟩
  have htaken : takeOut columns out = some values :=
    takeOut_of_forall₂ hnodup (hvalues.imp fun _ _ h => h.1)
  rw [layOut_of_takeOut htaken]
  exact ⟨hvalues.imp fun _ _ h => h.2, format, out, hformat, hout, htaken⟩

/-- An insert has the fields of a schema for its columns and one row of values for every row. -/
structure Placed (setup : Setup) (table : String) (schema : Schema) (rows : List Row)
    (i : Insertion) : Prop where
  table : i.table = setup.qualified table
  columns : i.columns.Perm schema.names
  rows : List.Forall₂ (RowPlaced setup.zones schema i.columns) rows i.values

variable {rows : List Row} {values : List (List Value)}

theorem placed_batch (hformat : RowFormat.ofSchema (mapper setup.zones) schema = .ok format)
    (hnodup : columns.Nodup) (hfits : setup.checkLayout table schema columns = .ok ())
    (hvalues : Setup.batch format columns rows = .ok values) :
    Placed setup table schema rows ⟨setup.qualified table, columns, values⟩ where
  table := rfl
  columns := perm_of_checkLayout hnodup hfits
  rows := by
    refine (Outcome.mapM_eq_ok_iff.1 hvalues).imp ?_
    intro row laid hlaid
    rcases Outcome.map_eq_ok hlaid with ⟨out, hout, rfl⟩
    exact rowPlaced_layOut hformat hnodup (mem_names_of_checkLayout hfits).2 hout

end Layout

/-! ## Writing -/

section Writing

variable {setup : Setup} {client : Client σ} {table : String} {schema : Schema}
  {rows : List Row}

/-- The last step of a write. -/
def insertLast (setup : Setup) (client : Client σ) (table : String) (columns : List String)
    (values : List (List Value)) : Action σ Unit := do
  match ← Action.timed setup ("insert into " ++ setup.qualified table)
      (client.insert (setup.qualified table) columns values) with
  | .ok () => return
  | .error e => throw e.toFailure

/-- How a write ends: each step that fails is the last one. -/
theorem run_write (hrows : rows ≠ []) (c : Session σ) :
    (setup.write client table schema rows).run c =
      match RowFormat.ofSchema (mapper setup.zones) schema with
      | .error e => (.error e, c)
      | .ok format =>
        match (setup.columnOrder client table).run c with
        | (.error e, c₁) => (.error e, c₁)
        | (.ok columns, c₁) =>
          match setup.checkLayout table schema columns with
          | .error e => (.error e, { c₁ with cache := Dict.erase c₁.cache table })
          | .ok () =>
            match Setup.batch format columns rows with
            | .error e => (.error e, c₁)
            | .ok values => (insertLast setup client table columns values).run c₁ := by
  unfold Setup.write
  rw [if_neg (by simpa using hrows), run_bind, run_ofOutcome]
  rcases RowFormat.ofSchema (mapper setup.zones) schema with e | format
  · rfl
  simp only
  rw [run_bind]
  rcases (setup.columnOrder client table).run c with ⟨e | columns, c₁⟩
  · rfl
  simp only
  rcases setup.checkLayout table schema columns with e | _
  · rfl
  simp only
  rw [run_bind, run_ofOutcome]
  rcases Setup.batch format columns rows with e | values <;> rfl

theorem requests_insertLast (columns : List String) (values : List (List Value))
    (c : Session (σ × List Request)) :
    ((insertLast setup client.noted table columns values).run c).2.requests =
      c.requests ++ [.insert ⟨setup.qualified table, columns, values⟩] := by
  apply requests_timed_bind
  intro answer rs
  cases answer with
  | ok u => exact Keeps.pure _
  | error e => exact Keeps.throw _

theorem insertions_insertLast (columns : List String) (values : List (List Value))
    (c : Session (σ × List Request)) :
    ((insertLast setup client.noted table columns values).run c).2.insertions =
      c.insertions ++ [⟨setup.qualified table, columns, values⟩] := by
  rw [Session.insertions, requests_insertLast, List.filterMap_append]
  rfl

/-- What an insert needs: every field is mapped, the columns of the table are known and are those
of the schema, and every row can be formatted. -/
structure Insertable (setup : Setup) (client : Client σ) (table : String) (schema : Schema)
    (rows : List Row) (c : Session (σ × List Request)) (format : RowFormat ColumnType)
    (columns : List String) : Prop where
  mapped : RowFormat.ofSchema (mapper setup.zones) schema = .ok format
  known : ∃ c₁, (setup.columnOrder client.noted table).run c = (.ok columns, c₁)
  fits : setup.checkLayout table schema columns = .ok ()
  formatted : ∀ row ∈ rows, ∃ out, format.format row = .ok out

/-- A write makes one insert if it can, and none otherwise. -/
theorem insertions_write (setup : Setup) (client : Client σ) (table : String) (schema : Schema)
    (hrows : rows ≠ []) (c : Session (σ × List Request)) :
    (∃ format columns values, Insertable setup client table schema rows c format columns ∧
      Setup.batch format columns rows = .ok values ∧
        ((setup.write client.noted table schema rows).run c).2.insertions =
          c.insertions ++ [⟨setup.qualified table, columns, values⟩]) ∨
      (¬ ∃ format columns, Insertable setup client table schema rows c format columns) ∧
        ((setup.write client.noted table schema rows).run c).2.insertions = c.insertions := by
  rcases hformat : RowFormat.ofSchema (mapper setup.zones) schema with e | format
  · right
    refine ⟨?_, ?_⟩
    · rintro ⟨format, columns, hready⟩
      cases hformat.symm.trans hready.mapped
    · rw [run_write hrows, hformat]
  rcases hcolumns : (setup.columnOrder client.noted table).run c with ⟨e | columns, c₁⟩
  · right
    refine ⟨?_, ?_⟩
    · rintro ⟨format, columns, hready⟩
      rcases hready.known with ⟨c₂, hknown⟩
      cases hcolumns.symm.trans hknown
    · simp only [run_write hrows, hformat, hcolumns]
      exact (keeps_columnOrder c.insertions).of_run rfl hcolumns
  have hlooked : c₁.insertions = c.insertions :=
    (keeps_columnOrder c.insertions).of_run rfl hcolumns
  rcases hfits : setup.checkLayout table schema columns with e | _
  · right
    refine ⟨?_, ?_⟩
    · rintro ⟨format, columns', hready⟩
      rcases hready.known with ⟨c₂, hknown⟩
      cases hcolumns.symm.trans hknown
      cases hfits.symm.trans hready.fits
    · simp only [run_write hrows, hformat, hcolumns, hfits]
      exact hlooked
  rcases hvalues : Setup.batch format columns rows with e | values
  · right
    refine ⟨?_, ?_⟩
    · rintro ⟨format', columns', hready⟩
      cases hformat.symm.trans hready.mapped
      rcases Outcome.mapM_eq_error hvalues with ⟨row, hrow, hfail⟩
      rcases hready.formatted row hrow with ⟨out, hout⟩
      cases (Outcome.map_eq_error hfail).symm.trans hout
    · simp only [run_write hrows, hformat, hcolumns, hfits, hvalues]
      exact hlooked
  · left
    refine ⟨format, columns, values, ⟨hformat, ⟨c₁, hcolumns⟩, hfits, ?_⟩, hvalues, ?_⟩
    · intro row hrow
      have hall := Outcome.mapM_eq_ok_iff.1 hvalues
      rcases Outcome.exists_of_forall₂ hall.flip hrow with ⟨laid, -, hlaid⟩
      rcases Outcome.map_eq_ok hlaid with ⟨out, hout, -⟩
      exact ⟨out, hout⟩
    · simp only [run_write hrows, hformat, hcolumns, hfits, hvalues]
      rw [insertions_insertLast, hlooked]

/-- A write with columns of distinct names makes at most one insert, in which every value stands
under the column of its field. There is no insert at all if a field is not mapped, the columns are
not those of the schema, or a row cannot be formatted. -/
theorem write_places_values (setup : Setup) (client : Client σ) (table : String) (schema : Schema)
    (rows : List Row) (hrows : rows ≠ []) (c c' : Session (σ × List Request))
    (hdistinct : ∀ columns c₁,
      (setup.columnOrder client.noted table).run c = (.ok columns, c₁) → columns.Nodup)
    (answer : Outcome Unit)
    (h : (setup.write client.noted table schema rows).run c = (answer, c')) :
    (∃ format i, Insertable setup client table schema rows c format i.columns ∧
      Placed setup table schema rows i ∧ c'.insertions = c.insertions ++ [i]) ∨
      (¬ ∃ format columns, Insertable setup client table schema rows c format columns) ∧
        c'.insertions = c.insertions := by
  have hafter : ((setup.write client.noted table schema rows).run c).2 = c' := by rw [h]
  rcases insertions_write setup client table schema hrows c with
    ⟨format, columns, values, hready, hvalues, hinsert⟩ | ⟨hnot, hsame⟩
  · rcases hready.known with ⟨c₁, hcolumns⟩
    have hplaced := placed_batch hready.mapped (hdistinct columns c₁ hcolumns) hready.fits hvalues
    exact .inl ⟨format, _, hready, hplaced, hafter ▸ hinsert⟩
  · exact .inr ⟨hnot, hafter ▸ hsame⟩

/-- The schema of a required number and a name. -/
def person : Schema :=
  ⟨[.plain "id" (.scalar .int64) false, .plain "name" (.scalar .string) true], by decide⟩

/-- A row without a name goes into a table that has the name before the number. -/
theorem write_places_values_reordered :
    let setup : Setup := ⟨{ database := "d" }, fun _ => none⟩
    let columns : List ColumnInfo := [⟨"name", "String", "DEFAULT"⟩, ⟨"id", "Int64", ""⟩]
    let c : Session (List ColumnInfo × List Request) := ⟨⟨(columns, []), 0⟩, []⟩
    let rows : List Row := [[("id", .int64 7)]]
    ∃ c' i, (setup.write described.noted "t" person rows).run c = (.ok (), c') ∧
      i = ⟨"d.t", ["name", "id"], [[.string "", .int64 7]]⟩ ∧
        Placed setup "t" person rows i ∧ c'.insertions = [i] := by
  intro setup columns c rows
  have hrun : (setup.write described.noted "t" person rows).run c = (.ok (), _) := rfl
  have hdistinct : ∀ names c₁,
      (setup.columnOrder described.noted "t").run c = (.ok names, c₁) → names.Nodup := by
    intro names c₁ h
    have hnames : (setup.columnOrder described.noted "t").run c = (.ok ["name", "id"], _) := rfl
    cases hnames.symm.trans h
    decide
  rcases write_places_values setup described "t" person rows (List.cons_ne_nil _ _) c _ hdistinct
    (.ok ()) hrun with ⟨format, i, -, hplaced, hinsert⟩ | ⟨-, hnone⟩
  · have hi : i = ⟨"d.t", ["name", "id"], [[.string "", .int64 7]]⟩ :=
      (List.cons.inj hinsert).1.symm
    exact ⟨_, i, hrun, hi, hplaced, hinsert⟩
  · cases hnone

end Writing

end ClickHouse
end Ingest
