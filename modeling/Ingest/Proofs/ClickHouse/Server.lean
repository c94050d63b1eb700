import Ingest.Proofs.ClickHouse.Folding
import Ingest.Proofs.Driver.Reconciliation
import Mathlib.Tactic.SplitIfs

/-!
# A server that keeps declared columns

`KeepsColumns` is what a driver relies on: the statements for a schema give a table the columns that
they declare, and the description of a table tells its columns. This module says what the
operations of a driver do to such a server.
-/

namespace Ingest
namespace ClickHouse

open Effect

variable {σ α β : Type}

/-! ## Looking up -/

/-- What is made of the answer of a look-up changes nothing any more. -/
theorem Setup.session_columnInfo (setup : Setup) (client : Client σ) (table : String)
    (c : Session σ) :
    ((setup.columnInfo client table).run c).2 = ((Action.timed setup "describe table"
      (client.columns setup.config.database table)).run c).2 := by
  rw [columnInfo, run_bind]
  split
  · rename_i answer c₁ hanswer
    rw [hanswer]
    cases answer with
    | ok infos => cases infos <;> rfl
    | error e =>
      simp only
      split <;> rfl
  · rename_i e c₁ hanswer
    rw [hanswer]

/-- Looking up the columns of a table keeps what the call keeps. -/
theorem Setup.keeps_columnInfo_of_timed {setup : Setup} {client : Client σ} {table : String}
    {P : Session σ → Prop} (h : Keeps P (Action.timed setup "describe table"
      (client.columns setup.config.database table))) :
    Keeps P (setup.columnInfo client table) := by
  intro c hc
  rw [session_columnInfo]
  exact h c hc

theorem Setup.keeps_columnInfo {setup : Setup} {client : Client σ} {table : String} {P : σ → Prop}
    (h : ∀ s, P s → P (client.columns setup.config.database table s).2) :
    Keeps (fun c : Session σ => P c.server) (setup.columnInfo client table) :=
  keeps_columnInfo_of_timed (keeps_timed h)

/-- Finding the order of columns keeps what the look-up keeps, if keeping its answer does. -/
theorem Setup.keeps_columnOrder_of_columnInfo {setup : Setup} {client : Client σ} {table : String}
    {P : Session σ → Prop} (hinfo : Keeps P (setup.columnInfo client table))
    (hkept : ∀ c e, P c → P { c with cache := Dict.insert c.cache table e }) :
    Keeps P (setup.columnOrder client table) := by
  have hfetch : Keeps P (columnOrder.fetch setup client table) := by
    apply hinfo.bind
    intro infos c hc
    exact hkept c _ hc
  have hget : Keeps P (get : Action σ (Session σ)) := fun _ hc => hc
  apply hget.bind
  intro c
  split
  · split
    · exact Keeps.pure _
    · exact hfetch
  · exact hfetch

/-- The columns that a server tells in time are known, folded. -/
theorem Setup.run_columnInfo {setup : Setup} {client : Client σ} {table : String} {c : Session σ}
    {columns : List ColumnInfo} (hcolumns : columns ≠ [])
    (hanswer : (client.columns setup.config.database table c.server).1.answer = .ok columns)
    (hdelay : (client.columns setup.config.database table c.server).1.delay ≤
      setup.config.queryTimeoutMs) :
    ∃ c', (setup.columnInfo client table).run c = (.ok (foldColumns columns), c') := by
  have hcall : (Action.timed setup "describe table"
      (client.columns setup.config.database table)).run c = (.ok _, _) := run_timed_of_le hdelay
  rw [Setup.columnInfo, run_bind_of_ok hcall, hanswer]
  cases columns with
  | nil => exact absurd rfl hcolumns
  | cons info infos => exact ⟨_, rfl⟩

/-! ## The contract -/

/-- The statement that creates a table for a schema. -/
def Setup.createStatement (setup : Setup) (table : String) (s : Schema) : Outcome String :=
  (setup.config.dialect setup.zones).createTable (setup.qualified table) s

/-- A server that keeps the columns of a table that are declared by the statements for a schema, as
nobody else changes them. `columns` reads them off its state; a table that does not exist has none. -/
structure KeepsColumns (setup : Setup) (client : Client σ) (table : String) (s : Schema)
    (columns : σ → List ColumnInfo) : Prop where
  /-- The columns of a table are told in time. -/
  told : ∀ st, columns st ≠ [] →
    (client.columns setup.config.database table st).1.answer = .ok (columns st) ∧
      (client.columns setup.config.database table st).1.delay ≤ setup.config.queryTimeoutMs
  notFound : ∀ st infos, columns st = [] →
    (client.columns setup.config.database table st).1.answer = .ok infos → infos = []
  asked : ∀ st, columns (client.columns setup.config.database table st).2 = columns st
  created : ∀ sql infos st, setup.createStatement table s = .ok sql →
    s.fields.mapM (declaredColumn setup.zones) = .ok infos →
      (client.exec sql st).1.answer = .ok () →
        columns st = [] ∧ columns (client.exec sql st).2 = infos
  notCreated : ∀ sql st e, setup.createStatement table s = .ok sql →
    (client.exec sql st).1.answer = .error e → columns (client.exec sql st).2 = columns st
  added : ∀ f ∈ s.fields, ∀ sql info st,
    addColumnStatement setup.zones (setup.qualified table) f = .ok sql →
      declaredColumn setup.zones f = .ok info →
        (client.exec sql st).1.answer = .ok () →
          f.name ∉ (columns st).map (·.name) ∧
            columns (client.exec sql st).2 = columns st ++ [info]
  /-- A column is refused as existing only if there is one of its name. -/
  refused : ∀ f ∈ s.fields, ∀ sql st e,
    addColumnStatement setup.zones (setup.qualified table) f = .ok sql →
      (client.exec sql st).1.answer = .error e →
        columns (client.exec sql st).2 = columns st ∧
          (e.isDuplicateColumn = true → f.name ∈ (columns st).map (·.name))

namespace KeepsColumns

variable {setup : Setup} {client : Client σ} {table : String} {s : Schema}
  {columns : σ → List ColumnInfo}

/-! ## Looking up -/

theorem keeps_columnInfo (k : KeepsColumns setup client table s columns) (v : List ColumnInfo) :
    Keeps (fun c : Session σ => columns c.server = v) (setup.columnInfo client table) := by
  refine Setup.keeps_columnInfo (P := fun st => columns st = v) ?_
  intro st hst
  exact (k.asked st).trans hst

/-- The columns that there are can be looked up. -/
theorem run_columnInfo (k : KeepsColumns setup client table s columns) {c : Session σ}
    (hc : columns c.server ≠ []) :
    ∃ c', (setup.columnInfo client table).run c = (.ok (foldColumns (columns c.server)), c') := by
  rcases k.told c.server hc with ⟨hanswer, hdelay⟩
  exact Setup.run_columnInfo hc hanswer hdelay

/-- What is looked up is what there is. -/
theorem columnInfo_eq_ok (k : KeepsColumns setup client table s columns) {c c' : Session σ}
    {infos : List ColumnInfo} (h : (setup.columnInfo client table).run c = (.ok infos, c')) :
    columns c.server ≠ [] ∧ infos = foldColumns (columns c.server) ∧
      columns c'.server = columns c.server := by
  have hsame : columns c'.server = columns c.server :=
    (k.keeps_columnInfo (columns c.server)).of_run rfl h
  by_cases hc : columns c.server = []
  · rcases bind_eq_ok h with ⟨answer, c₁, hcall, hanswer⟩
    cases answer with
    | ok told =>
      -- A table that does not exist is described by no columns, if at all.
      have htold : told = [] := k.notFound c.server told hc (timed_eq_ok hcall).1
      rw [htold] at hanswer
      cases hanswer
    | error e =>
      simp only at hanswer
      split at hanswer
      · cases hanswer
      · cases hanswer
  · rcases k.run_columnInfo hc with ⟨c₁, hrun⟩
    cases h.symm.trans hrun
    exact ⟨hc, rfl, hsame⟩

/-! ## Creating -/

theorem declared_of_fieldDefinition {zones : Calendar.ZoneDatabase} {f : Field} {text : String}
    (h : fieldDefinition zones f = .ok text) : ∃ info, declaredColumn zones f = .ok info := by
  rcases Outcome.bind_eq_ok h with ⟨c, hc, -⟩
  exact ⟨_, congrArg (Except.map _) hc⟩

theorem declared_of_definitions {zones : Calendar.ZoneDatabase} {fields : List Field}
    {texts : List String}
    (h : List.Forall₂ (fun f text =>
      ((fieldDefinition zones f).map fun definition => f.name ++ " " ++ definition) = .ok text)
      fields texts) :
    ∃ infos, List.Forall₂ (fun f info => declaredColumn zones f = .ok info) fields infos := by
  induction h with
  | nil => exact ⟨[], .nil⟩
  | cons hf _ ih =>
    rcases Outcome.map_eq_ok hf with ⟨definition, hdefinition, -⟩
    rcases declared_of_fieldDefinition hdefinition with ⟨info, hinfo⟩
    rcases ih with ⟨infos, hinfos⟩
    exact ⟨info :: infos, .cons hinfo hinfos⟩

/-- A statement that creates a table declares a column for every field. -/
theorem declared_of_createStatement {sql : String}
    (h : setup.createStatement table s = .ok sql) :
    ∃ infos, s.fields.mapM (declaredColumn setup.zones) = .ok infos := by
  rcases Outcome.bind_eq_ok h with ⟨texts, htexts, -⟩
  rcases declared_of_definitions (Outcome.mapM_eq_ok_iff.1 htexts) with ⟨infos, hinfos⟩
  exact ⟨infos, Outcome.mapM_eq_ok_iff.2 hinfos⟩

/-- A table that was created has the declared columns, and did not exist before. -/
theorem createTable_eq_ok (k : KeepsColumns setup client table s columns) {c c' : Session σ}
    (h : (setup.createTable client table s).run c = (.ok (), c')) :
    columns c.server = [] ∧
      s.fields.mapM (declaredColumn setup.zones) = .ok (columns c'.server) := by
  rcases bind_eq_ok_of_run (run_ofOutcome _) h with ⟨u, -, h⟩
  rcases bind_eq_ok_of_run (run_ofOutcome _) h with ⟨u', -, h⟩
  rcases bind_eq_ok_of_run (run_ofOutcome _) h with ⟨sql, hstatement, h⟩
  rcases bind_eq_ok h with ⟨answer, c₁, hcall, h⟩
  rcases declared_of_createStatement hstatement with ⟨infos, hinfos⟩
  rcases timed_eq_ok hcall with ⟨hanswer, hserver⟩
  cases answer with
  | ok u =>
    -- The statement was accepted, so that there was no table before.
    rcases k.created sql infos _ hstatement hinfos hanswer with ⟨hnone, hcreated⟩
    cases h
    refine ⟨hnone, ?_⟩
    rw [hinfos, ← hcreated, hserver]
  | error e =>
    simp only at h
    split at h
    · cases h
    · cases h

/-- A table that exists already stays as it is. -/
theorem createTable_eq_taken (k : KeepsColumns setup client table s columns) {c c' : Session σ}
    {t : String}
    (h : (setup.createTable client table s).run c = (.error (.tableAlreadyExists t), c')) :
    columns c'.server = columns c.server := by
  rcases bind_eq_error_of_run (run_ofOutcome _) h with ⟨-, rfl⟩ | ⟨u, -, h⟩
  · rfl
  rcases bind_eq_error_of_run (run_ofOutcome _) h with ⟨-, rfl⟩ | ⟨u', -, h⟩
  · rfl
  rcases bind_eq_error_of_run (run_ofOutcome _) h with ⟨-, rfl⟩ | ⟨sql, hstatement, h⟩
  · rfl
  rcases bind_eq_error h with hcall | ⟨answer, c₁, hcall, h⟩
  · cases timed_eq_error hcall
  rcases timed_eq_ok hcall with ⟨hanswer, hserver⟩
  cases answer with
  | ok u => cases h
  | error e =>
    have hstate : c₁ = c' := by
      simp only at h
      split at h
      · exact congrArg Prod.snd h
      · exact congrArg Prod.snd h
    rw [← hstate, ← hserver]
    exact k.notCreated sql _ e hstatement hanswer

/-! ## Adding -/

theorem columnInfo_eq_error {c c' : Session σ} {e : Failure}
    (h : (setup.columnInfo client table).run c = (.error e, c')) (t column : String) :
    e ≠ .columnAlreadyExists t column := by
  rcases bind_eq_error h with hcall | ⟨answer, c₁, -, h⟩
  · rw [timed_eq_error hcall]
    nofun
  · rintro rfl
    cases answer with
    | ok infos => cases infos <;> cases h
    | error e =>
      simp only at h
      split at h
      · cases h
      · cases h

theorem fieldCodec_eq_error {f : Field} {e : Failure} (h : fieldCodec f = .error e) :
    ∃ reason, e = .invalidConfig reason := by
  unfold fieldCodec at h
  split at h
  · cases h
  simp only at h
  split_ifs at h
  · cases h
    exact ⟨_, rfl⟩
  · cases h
    exact ⟨_, rfl⟩

/-- A field is not defined if its type has no column or its codec is not written as one. -/
theorem fieldDefinition_eq_error {zones : Calendar.ZoneDatabase} {f : Field} {e : Failure}
    (h : fieldDefinition zones f = .error e) :
    (∃ type, e = .unsupportedMapping type mapperName) ∨ ∃ reason, e = .invalidConfig reason := by
  rcases Outcome.bind_eq_error h with hcolumn | ⟨c, -, h⟩
  · exact .inl (toColumn_eq_error hcolumn)
  rcases Outcome.bind_eq_error h with hcodec | ⟨clause, -, h⟩
  · exact .inr (fieldCodec_eq_error hcodec)
  cases clause with
  | none => cases h
  | some clause => cases h

/-- A field that cannot be declared is not reported as a column that exists. -/
theorem addColumnStatement_eq_error {zones : Calendar.ZoneDatabase} {f : Field} {e : Failure}
    (h : addColumnStatement zones table f = .error e) (t column : String) :
    e ≠ .columnAlreadyExists t column := by
  rcases Outcome.bind_eq_error h with hdefinition | ⟨definition, -, h⟩
  · rcases fieldDefinition_eq_error hdefinition with ⟨type, rfl⟩ | ⟨reason, rfl⟩
    · nofun
    · nofun
  · cases h

theorem declared_of_addColumnStatement {zones : Calendar.ZoneDatabase} {f : Field} {sql : String}
    (h : addColumnStatement zones table f = .ok sql) :
    ∃ info, declaredColumn zones f = .ok info := by
  rcases Outcome.bind_eq_ok h with ⟨definition, hdefinition, -⟩
  exact declared_of_fieldDefinition hdefinition

/-- A column is added behind the others, none of which has its name. -/
theorem addColumn_eq_ok (k : KeepsColumns setup client table s columns) {f : Field}
    (hf : f ∈ s.fields) {c c' : Session σ}
    (h : (setup.addColumn client table f).run c = (.ok (), c')) :
    ∃ info, declaredColumn setup.zones f = .ok info ∧
      f.name ∉ (columns c.server).map (·.name) ∧
        columns c'.server = columns c.server ++ [info] := by
  rcases bind_eq_ok_of_run (run_ofOutcome _) h with ⟨u, -, h⟩
  rcases bind_eq_ok_of_run (run_ofOutcome _) h with ⟨u', -, h⟩
  rcases bind_eq_ok h with ⟨infos, c₁, hlook, h⟩
  rcases k.columnInfo_eq_ok hlook with ⟨-, -, hsame⟩
  simp only at h
  split at h
  · cases h
  rcases bind_eq_ok_of_run (run_ofOutcome _) h with ⟨sql, hstatement, h⟩
  rcases declared_of_addColumnStatement hstatement with ⟨info, hinfo⟩
  rcases bind_eq_ok h with ⟨answer, c₂, hcall, h⟩
  rcases timed_eq_ok hcall with ⟨hanswer, hserver⟩
  cases answer with
  | ok u =>
    cases h
    rcases k.added f hf sql info _ hstatement hinfo hanswer with ⟨hnew, hadded⟩
    rw [hsame] at hnew hadded
    refine ⟨info, hinfo, hnew, ?_⟩
    rw [← hadded, hserver]
  | error e =>
    simp only at h
    split at h
    · cases h
    · cases h

/-- A column is only taken for one that exists if there is one of its name, folded or not. -/
theorem addColumn_eq_exists (k : KeepsColumns setup client table s columns) {f : Field}
    (hf : f ∈ s.fields) {c c' : Session σ} {t column : String}
    (h : (setup.addColumn client table f).run c = (.error (.columnAlreadyExists t column), c')) :
    columns c'.server = columns c.server ∧
      (f.name ∈ (foldColumns (columns c.server)).map (·.name) ∨
        f.name ∈ (columns c.server).map (·.name)) := by
  rcases bind_eq_error_of_run (run_ofOutcome _) h with ⟨hinvalid, -⟩ | ⟨u, -, h⟩
  · rcases Identifier.validate_eq_error hinvalid with ⟨reason, ⟨⟩⟩
  rcases bind_eq_error_of_run (run_ofOutcome _) h with ⟨hinvalid, -⟩ | ⟨u', -, h⟩
  · rcases Identifier.validate_eq_error hinvalid with ⟨reason, ⟨⟩⟩
  rcases bind_eq_error h with hlook | ⟨infos, c₁, hlook, h⟩
  · exact absurd rfl (columnInfo_eq_error hlook t column)
  rcases k.columnInfo_eq_ok hlook with ⟨-, hinfos, hsame⟩
  simp only at h
  split at h
  · rename_i hany
    rcases List.any_eq_true.1 hany with ⟨info, hmem, hname⟩
    cases h
    refine ⟨hsame, .inl ?_⟩
    rw [← hinfos]
    exact List.mem_map.2 ⟨info, hmem, by simpa using hname⟩
  rcases bind_eq_error_of_run (run_ofOutcome _) h with
    ⟨hstatement, -⟩ | ⟨sql, hstatement, h⟩
  · exact absurd rfl (addColumnStatement_eq_error hstatement t column)
  rcases bind_eq_error h with hcall | ⟨answer, c₂, hcall, h⟩
  · cases timed_eq_error hcall
  rcases timed_eq_ok hcall with ⟨hanswer, hserver⟩
  cases answer with
  | ok u => cases h
  | error e =>
    -- The server knows the column, though the look-up did not find it.
    rcases k.refused f hf sql _ e hstatement hanswer with ⟨hkept, hnamed⟩
    rw [hsame] at hkept hnamed
    simp only at h
    split at h
    · rename_i hduplicate
      cases h
      refine ⟨?_, .inr (hnamed hduplicate)⟩
      rw [← hserver, hkept]
    · cases h

end KeepsColumns
end ClickHouse
end Ingest
