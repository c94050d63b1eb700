import Ingest.Proofs.BigQuery.Server

/-!
# Reconciliation converges

After a reconciliation that succeeds the table has a column for every field of the schema, and every
column fits its field (`Lacks` with nothing left). Then nothing is missing any more, and another
reconciliation looks once and asks for no change. `Client.watched` notes the changes that are asked
for.
-/

namespace Ingest
namespace BigQuery

open Effect

variable {σ : Type}

/-! ## Changes -/

/-- A request to change a table. -/
inductive Change where
  | create (dataset table : String) (metadata : TableMetadata)
  | update (dataset table : String) (fields : List FieldSchema)

/-- The same client, with the changes that were asked for. -/
def Client.watched (client : Client σ) : Client (σ × List Change) where
  createTable dataset table metadata s :=
    let answered := client.createTable dataset table metadata s.1
    (answered.1, answered.2, s.2 ++ [.create dataset table metadata])
  tableMetadata dataset table s :=
    let answered := client.tableMetadata dataset table s.1
    (answered.1, answered.2, s.2)
  updateSchema dataset table fields etag s :=
    let answered := client.updateSchema dataset table fields etag s.1
    (answered.1, answered.2, s.2 ++ [.update dataset table fields])
  query sql s :=
    let answered := client.query sql s.1
    (answered.1, answered.2, s.2)
  insertRows dataset table rows s :=
    let answered := client.insertRows dataset table rows s.1
    (answered.1, answered.2, s.2)
  loadLines dataset table text s :=
    let answered := client.loadLines dataset table text s.1
    (answered.1, answered.2, s.2)

theorem KeepsColumns.watched {config : Config} {client : Client σ} {table : String}
    {columns : σ → Option (List FieldSchema)} (k : KeepsColumns config client table columns) :
    KeepsColumns config client.watched table fun s => columns s.1 where
  told s := k.told s.1
  notFound s := k.notFound s.1
  asked s := k.asked s.1
  queried sql s := k.queried sql s.1
  created metadata s := k.created metadata s.1
  notCreated metadata s := k.notCreated metadata s.1
  updated fields etag s := k.updated fields etag s.1
  refused fields etag s := k.refused fields etag s.1

/-! ## Columns for fields -/

theorem name_of_existingField {g : FieldSchema} {f : Field}
    (h : Config.existingField g = .ok f) : f.name = g.name := by
  rcases Outcome.map_eq_ok h with ⟨t, -, rfl⟩
  rfl

theorem names_of_existingFields {gs : List FieldSchema} {fs : List Field}
    (h : List.Forall₂ (fun g f => Config.existingField g = .ok f) gs fs) :
    fs.map (·.name) = gs.map (·.name) := by
  refine Outcome.map_eq_of_forall₂ ?_ h
  intro g f hf
  exact name_of_existingField hf

theorem existingFields_of_storedFields {fs : List Field} {gs : List FieldSchema}
    (h : List.Forall₂ (fun f g => Config.storedField f = .ok g) fs gs)
    (hfs : ∀ f ∈ fs, insideList f.metadata = false) :
    List.Forall₂ (fun g f => Config.existingField g = .ok f) gs (fs.map storedAs) := by
  induction h with
  | nil => exact .nil
  | @cons f g fs gs hg _ ih =>
    have hread := existingField_of_storedField hg (hfs f List.mem_cons_self)
    exact .cons hread (ih fun f' hf' => hfs f' (List.mem_cons_of_mem f hf'))

/-- The columns of a table can be read and cover the fields of a schema, except for those that are
missing, whose names are new. -/
structure Lacks (columns : List FieldSchema) (s : Schema) (missing : List Field) : Prop where
  distinct : (columns.map (·.name)).Nodup
  covered : ∃ existing,
    List.Forall₂ (fun g f => Config.existingField g = .ok f) columns existing ∧
      ∀ f ∈ s.fields, f ∈ missing ∨ Covers checker (indexFields existing) f
  incoming : ∀ f ∈ missing, f ∈ s.fields
  new : ∀ f ∈ missing, f.name ∉ columns.map (·.name)
  distinctMissing : (missing.map (·.name)).Nodup

namespace Lacks

variable {columns : List FieldSchema} {s : Schema}

/-- What a comparison finds missing. -/
theorem of_missingColumns (hnd : (columns.map (·.name)).Nodup) {existing : List Field}
    (hexisting : columns.mapM Config.existingField = .ok existing) {table : String}
    {missing : List Field}
    (h : missingColumns table (indexFields existing) checker s = .ok missing) :
    Lacks columns s missing := by
  have hread := Outcome.mapM_eq_ok_iff.1 hexisting
  rcases missingColumns_eq_ok_iff.1 h with ⟨hfits, rfl⟩
  refine ⟨hnd, ⟨existing, hread, ?_⟩, ?_, ?_, nodup_absentFields _ s⟩
  · intro f hf
    -- The comparison lists what it does not find, and has checked the rest.
    cases he : indexFields existing f.name with
    | none => exact .inl (mem_absentFields.2 ⟨hf, he⟩)
    | some e => exact .inr ⟨e, he, hfits f hf e he⟩
  · intro f hf
    exact (mem_absentFields.1 hf).1
  · intro f hf
    rw [← names_of_existingFields hread]
    exact indexFields_eq_none_iff.1 (mem_absentFields.1 hf).2

/-- The columns that a schema is stored in lack nothing. -/
theorem of_stored
    (h : List.Forall₂ (fun f g => Config.storedField f = .ok g) s.fields columns)
    (hs : ∀ f ∈ s.fields, insideList f.metadata = false) : Lacks columns s [] := by
  have hnames : columns.map (·.name) = s.fields.map (·.name) :=
    KeepsColumns.names_of_storedFields h
  have hstored : ((s.fields.map storedAs).map (·.name)).Nodup := by
    simpa [Function.comp_def] using s.nodup
  refine ⟨hnames ▸ s.nodup, ⟨s.fields.map storedAs, existingFields_of_storedFields h hs, ?_⟩,
    nofun, nofun, List.nodup_nil⟩
  intro f hf
  have hfound := indexFields_of_mem hstored (List.mem_map_of_mem hf)
  exact .inr ⟨storedAs f, hfound, checker_storedAs f⟩

/-- One column more is one missing field less. -/
theorem add {f : Field} {rest : List Field} {g : FieldSchema} (l : Lacks columns s (f :: rest))
    (hg : Config.storedField f = .ok g) (hf : insideList f.metadata = false) :
    Lacks (columns ++ [g]) s rest := by
  rcases l.covered with ⟨existing, hread, hcovered⟩
  have hgname : g.name = f.name := name_of_storedField hg
  have hfnew : f.name ∉ columns.map (·.name) := l.new f List.mem_cons_self
  rcases List.nodup_cons.1 l.distinctMissing with ⟨hfrest, hrest⟩
  refine ⟨?_, ⟨existing ++ [storedAs f], ?_, ?_⟩, ?_, ?_, hrest⟩
  · rw [List.map_append, List.map_singleton, hgname]
    simpa using List.Nodup.concat hfnew l.distinct
  · exact List.rel_append hread (.cons (existingField_of_storedField hg hf) .nil)
  · intro f' hf'
    rcases hcovered f' hf' with hmissing | hcov
    -- The field that was missing is covered by the new column.
    · rcases List.mem_cons.1 hmissing with rfl | hmissing
      · refine .inr ⟨storedAs f', ?_, checker_storedAs f'⟩
        rw [indexFields_append]
        simp [indexFields]
      · exact .inl hmissing
    -- A column that covered another field is still found, as the new one has another name.
    · refine .inr (hcov.append ?_)
      intro heq
      rcases hcov with ⟨e, he, -⟩
      have hmem : f'.name ∈ existing.map (·.name) := indexFields_isSome_iff.1 (by rw [he]; rfl)
      rw [names_of_existingFields hread, ← heq] at hmem
      exact hfnew hmem
  · intro f' hf'
    exact l.incoming f' (List.mem_cons_of_mem f hf')
  · intro f' hf'
    rw [List.map_append, List.map_singleton, hgname, List.mem_append, List.mem_singleton]
    rintro (hold | heq)
    · exact l.new f' (List.mem_cons_of_mem f hf') hold
    · exact hfrest (List.mem_map.2 ⟨f', hf', heq⟩)

end Lacks

/-! ## The operations of the driver -/

namespace KeepsColumns

variable {config : Config} {client : Client σ} {table : String}
  {columns : σ → Option (List FieldSchema)} {s : Schema}

theorem missingColumns_eq_ok (k : KeepsColumns config client table columns)
    {c c' : Clocked σ} {missing : List Field} (hd : Distinct (columns c.server))
    (h : (config.missingColumns client table s).run c = (.ok missing, c')) :
    ∃ fields, columns c'.server = some fields ∧ Lacks fields s missing := by
  rcases bind_eq_ok h with ⟨t, c₁, hlook, h⟩
  have hanswer := congrArg Prod.fst h
  have hstate : c₁ = c' := congrArg Prod.snd h
  rcases k.tableMetadata_eq_ok hlook with ⟨hbefore, hafter⟩
  rcases Outcome.bind_eq_ok hanswer with ⟨existing, hexisting, hmissing⟩
  refine ⟨t.schema, ?_, .of_missingColumns (hd t.schema hbefore) hexisting hmissing⟩
  exact hstate ▸ hafter

theorem keeps_missingColumns (k : KeepsColumns config client table columns) :
    Keeps (fun c => Distinct (columns c.server)) (config.missingColumns client table s) := by
  refine Keeps.of_columns fun v => Keeps.bind (k.keeps_tableMetadata v) ?_
  intro t
  exact keeps_ofOutcome _ _

/-- Where nothing is missing, a comparison says so after one look. -/
theorem run_missingColumns_of_complete (k : KeepsColumns config client table columns)
    {c : Clocked σ} {fields : List FieldSchema} (hc : columns c.server = some fields)
    (l : Lacks fields s []) :
    ∃ c', (config.missingColumns client table s).run c = (.ok [], c') ∧
      c'.server = (client.tableMetadata config.dataset table c.server).2 := by
  rcases k.run_tableMetadata hc with ⟨t, c₁, hlook, rfl, hserver⟩
  rcases l.covered with ⟨existing, hread, hcovered⟩
  have hmissing : Ingest.missingColumns (config.qualified table) (indexFields existing) checker s =
      .ok [] := by
    apply missingColumns_eq_nil_iff.2
    intro f hf
    rcases hcovered f hf with hnone | hcov
    · cases hnone
    · exact hcov
  refine ⟨c₁, ?_, hserver⟩
  unfold Config.missingColumns
  rw [run_bind_of_ok hlook, Outcome.mapM_eq_ok_iff.2 hread]
  exact congrArg (·, c₁) hmissing

/-- What every call of a reconciliation preserves. -/
theorem reconciliation (k : KeepsColumns config client table columns)
    (hs : ∀ f ∈ s.fields, insideList f.metadata = false) :
    Driver.Reconciliation (config.driver client) table s
      (fun c => Distinct (columns c.server))
      (fun missing c => ∃ fields, columns c.server = some fields ∧ Lacks fields s missing)
      (fun c => ∃ fields, columns c.server = some fields ∧ Lacks fields s []) where
  found hc h := k.missingColumns_eq_ok hc h
  absent hc h := k.keeps_missingColumns.of_run hc h
  created hc h := by
    rcases k.createTable_eq_ok h with ⟨fields, hfields, hstored⟩
    exact ⟨fields, hfields, .of_stored hstored hs⟩
  taken hc h := (k.keeps_createTable s).of_run hc h
  added := by
    rintro f rest c c' ⟨fields, hfields, l⟩ h
    rcases k.addColumn_eq_ok hfields h with ⟨g, hg, hadded⟩
    exact ⟨fields ++ [g], hadded, l.add hg (hs f (l.incoming f List.mem_cons_self))⟩
  addedByOthers := by
    rintro f rest c t column c' ⟨fields, hfields, l⟩ h
    exact absurd h (k.addColumn_ne_exists hfields (l.new f List.mem_cons_self) l.distinct)
  complete hc := hc

end KeepsColumns

/-! ## Convergence -/

/-- Nothing of a schema is missing, and another reconciliation asks for no change. -/
def Settled (config : Config) (client : Client σ) (table : String) (s : Schema)
    (c : Clocked (σ × List Change)) : Prop :=
  let driver := config.driver client.watched
  ((driver.missingColumns table s).run c).1 = .ok [] ∧
    ∀ rounds, ∃ c',
      (driver.reconcile Driver.quiet table s (rounds + 1)).run c = (.ok (some .unchanged), c') ∧
        c'.server.2 = c.server.2

theorem KeepsColumns.settled {config : Config} {client : Client σ} {table : String}
    {columns : σ → Option (List FieldSchema)} {s : Schema}
    (k : KeepsColumns config client table columns) {c : Clocked (σ × List Change)}
    (hc : ∃ fields, columns c.server.1 = some fields ∧ Lacks fields s []) :
    Settled config client table s c := by
  rcases hc with ⟨fields, hfields, l⟩
  rcases k.watched.run_missingColumns_of_complete hfields l with ⟨c', hnone, hserver⟩
  refine ⟨congrArg Prod.fst hnone, ?_⟩
  intro rounds
  refine ⟨c', Driver.reconcile_of_complete hnone rounds, ?_⟩
  rw [hserver]
  rfl

/-- A reconciliation that succeeds leaves nothing to do, and so does the creation of a table,
whatever the server's columns were before. -/
theorem reconcile_settles (config : Config) (client : Client σ) (table : String)
    (columns : σ → Option (List FieldSchema)) (k : KeepsColumns config client table columns)
    (s : Schema) (hs : ∀ f ∈ s.fields, f.metadata.get? "bigquery.parent_type" = none)
    (c : Clocked (σ × List Change)) (hc : Distinct (columns c.server.1)) :
    (∀ rounds result c',
      ((config.driver client.watched).reconcile Driver.quiet table s rounds).run c =
          (.ok (some result), c') → Settled config client table s c') ∧
      (∀ c', ((config.driver client.watched).createTable table s).run c = (.ok (), c') →
        Settled config client table s c') := by
  have houtside : ∀ f ∈ s.fields, insideList f.metadata = false := by
    intro f hf
    rw [insideList, parentKey, hs f hf]
    rfl
  -- What is proved of any client is used for the one that notes its changes.
  have r := k.watched.reconciliation houtside
  constructor
  · intro rounds result c' h
    exact k.settled (r.run hc h)
  · intro c' h
    exact k.settled (r.created hc h)

/-- A server of one table that keeps its columns. -/
def keeper : Client (Option (List FieldSchema)) where
  createTable _ _ metadata
    | none => (⟨.ok (), 0⟩, some metadata.schema)
    | some fields => (⟨.error ⟨409, "duplicate", "Already Exists"⟩, 0⟩, some fields)
  tableMetadata _ _
    | none => (⟨.error ⟨404, "notFound", "Not found"⟩, 0⟩, none)
    | some fields => (⟨.ok ⟨fields, none, none⟩, 0⟩, some fields)
  updateSchema _ _ fields _ _ := (⟨.ok (), 0⟩, some fields)
  query _ s := (⟨.ok (), 0⟩, s)
  insertRows _ _ _ s := (⟨.ok (), 0⟩, s)
  loadLines _ _ _ s := (⟨.ok (), 0⟩, s)

theorem keepsColumns_keeper (config : Config) (table : String) :
    KeepsColumns config keeper table id where
  told := by
    rintro _ fields rfl
    exact ⟨⟨⟨fields, none, none⟩, rfl, rfl⟩, Nat.zero_le _⟩
  notFound := by
    rintro _ rfl
    exact ⟨_, rfl⟩
  asked s := by cases s <;> rfl
  queried sql s := rfl
  created metadata s := by
    cases s with
    | none => exact fun _ => rfl
    | some fields => nofun
  notCreated metadata s e := by
    cases s with
    | none => nofun
    | some fields => exact fun _ => rfl
  updated fields etag s := fun _ => rfl
  refused fields etag s e := nofun

/-- A table of one column gets two more, one of them with records. -/
theorem reconcile_settles_keeper :
    let config : Config := { projectId := "p", dataset := "d" }
    let s : Schema :=
      ⟨[.plain "id" (.scalar .int32) false, .plain "at" (.scalar (.timestamp .millisecond none)) true,
        .plain "tags" (.list (.struct [.plain "n" (.scalar .float32) true])) false], by decide⟩
    let c : Clocked (Option (List FieldSchema) × List Change) :=
      ⟨(some [⟨"id", .integer, .required, none, []⟩], []), 0⟩
    ∃ c', ((config.driver keeper.watched).reconcile Driver.quiet "t" s 1).run c =
        (.ok (some (.columnsAdded 2)), c') ∧ Settled config keeper "t" s c' := by
  intro config s c
  have k := keepsColumns_keeper config "t"
  have hs : ∀ f ∈ s.fields, f.metadata.get? "bigquery.parent_type" = none := by decide
  have hc : Distinct (id c.server.1) := by
    rintro _ ⟨⟩
    decide
  have hrun : ((config.driver keeper.watched).reconcile Driver.quiet "t" s 1).run c =
      (.ok (some (.columnsAdded 2)), _) := rfl
  exact ⟨_, hrun, (reconcile_settles config keeper "t" id k s hs c hc).1 1 _ _ hrun⟩

end BigQuery
end Ingest
