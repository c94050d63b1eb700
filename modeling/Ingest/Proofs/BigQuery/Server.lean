import Ingest.Proofs.BigQuery.RoundTrip
import Ingest.Proofs.Driver.Reconciliation
import Ingest.Proofs.Schema.Coverage

/-!
# A server that keeps columns

`KeepsColumns` is what a driver relies on: a table has the columns that it was created with or last
given, and a look-up tells them. This module says what the operations of a driver do to such a
server.
-/

namespace Ingest
namespace BigQuery

open Effect

variable {σ α : Type}

/-! ## Errors -/

namespace ApiError

/-- The service says that there is no such table. -/
def NotFound (e : ApiError) : Prop :=
  e.status = 404 ∨ e.reason = "notFound"

/-- The service says that there is such a table or a column already. -/
def AlreadyExists (e : ApiError) : Prop :=
  e.status = 409 ∨ e.reason = "duplicate" ∨ e.reason = "alreadyExists"

theorem isNotFound_iff {e : ApiError} : e.isNotFound = true ↔ e.NotFound := by
  simp [isNotFound, NotFound]

theorem isAlreadyExists_iff {e : ApiError} : e.isAlreadyExists = true ↔ e.AlreadyExists := by
  simp [isAlreadyExists, AlreadyExists, or_assoc]

end ApiError

/-! ## The contract -/

/-- A server that keeps the columns of a table, as nobody else changes them. `columns` reads them
off its state; `none` means that there is no table. -/
structure KeepsColumns (config : Config) (client : Client σ) (table : String)
    (columns : σ → Option (List FieldSchema)) : Prop where
  /-- The columns of a table are told in time. -/
  told : ∀ s fields, columns s = some fields →
    (∃ t, (client.tableMetadata config.dataset table s).1.answer = .ok t ∧ t.schema = fields) ∧
      (client.tableMetadata config.dataset table s).1.delay ≤ config.queryTimeoutMs
  notFound : ∀ s, columns s = none →
    ∃ e, (client.tableMetadata config.dataset table s).1.answer = .error e
  asked : ∀ s, columns (client.tableMetadata config.dataset table s).2 = columns s
  queried : ∀ sql s, columns (client.query sql s).2 = columns s
  created : ∀ metadata s,
    (client.createTable config.dataset table metadata s).1.answer = .ok () →
      columns (client.createTable config.dataset table metadata s).2 = some metadata.schema
  notCreated : ∀ metadata s e,
    (client.createTable config.dataset table metadata s).1.answer = .error e →
      columns (client.createTable config.dataset table metadata s).2 = columns s
  updated : ∀ fields etag s,
    (client.updateSchema config.dataset table fields etag s).1.answer = .ok () →
      columns (client.updateSchema config.dataset table fields etag s).2 = some fields
  /-- Fields are refused as existing only if a name occurs twice among them. -/
  refused : ∀ fields etag s e,
    (client.updateSchema config.dataset table fields etag s).1.answer = .error e →
      e.AlreadyExists → ¬ (fields.map (·.name)).Nodup

/-! ## Looks at a new table -/

section Looks

variable {P : σ → Prop} {lookup : Call σ ApiError TableMetadata}

theorem look_keeps (hP : ∀ s, P s → P (lookup s).2) {limit : Nat} {c : Clocked σ}
    (hc : P c.server) : P (look limit lookup c).2.server := by
  have hserver : (look limit lookup c).2.server = (lookup c.server).2 := by
    rw [← Clocked.server_await limit lookup c, look]
    rcases Clocked.await limit lookup c with ⟨_ | answer, c'⟩
    · rfl
    · cases answer <;> rfl
  rw [hserver]
  exact hP c.server hc

/-- Looking again and again keeps what one look keeps. -/
theorem awaitVisible_keeps (hP : ∀ s, P s → P (lookup s).2) (limit deadline due : Nat)
    {c : Clocked σ} (hc : P c.server) :
    P (awaitVisible limit lookup deadline due c).2.server := by
  fun_induction awaitVisible limit lookup deadline due c with
  | case1 due c hpast => exact hc
  | case2 due c hpast ready looked hlate => exact look_keeps hP (c := ready) hc
  | case3 due c hpast ready looked hlate hvisible => exact look_keeps hP (c := ready) hc
  | case4 due c hpast ready looked hlate e hfailed => exact look_keeps hP (c := ready) hc
  | case5 due c hpast ready looked hlate hnotYet ih => exact ih (look_keeps hP (c := ready) hc)

end Looks

/-- No two columns have one name. -/
def Distinct (columns : Option (List FieldSchema)) : Prop :=
  ∀ fields, columns = some fields → (fields.map (·.name)).Nodup

/-- What leaves the columns as they are keeps what holds of them. -/
theorem Keeps.of_columns {columns : σ → Option (List FieldSchema)} {x : Action σ α}
    {P : Option (List FieldSchema) → Prop}
    (h : ∀ v, Keeps (fun c => columns c.server = v) x) :
    Keeps (fun c => P (columns c.server)) x := by
  intro c hc
  have hsame : columns (x.run c).2.server = columns c.server := h (columns c.server) c rfl
  rw [hsame]
  exact hc

namespace KeepsColumns

variable {config : Config} {client : Client σ} {table : String}
  {columns : σ → Option (List FieldSchema)}

/-! ## Looking up -/

theorem keeps_tableMetadata (k : KeepsColumns config client table columns)
    (v : Option (List FieldSchema)) :
    Keeps (fun c => columns c.server = v) (config.tableMetadata client table) := by
  refine Keeps.bind (keeps_timed (P := fun s => columns s = v) ?_) ?_
  · intro s hs
    rw [k.asked, hs]
  · intro answer
    cases answer with
    | ok t => exact Keeps.pure t
    | error e =>
      simp only
      split
      · exact Keeps.throw _
      · exact Keeps.throw _

/-- The columns that there are can be looked up. -/
theorem run_tableMetadata (k : KeepsColumns config client table columns) {c : Clocked σ}
    {fields : List FieldSchema} (hc : columns c.server = some fields) :
    ∃ t c', (config.tableMetadata client table).run c = (.ok t, c') ∧ t.schema = fields ∧
      c'.server = (client.tableMetadata config.dataset table c.server).2 := by
  rcases k.told c.server fields hc with ⟨⟨t, ht, hschema⟩, hdelay⟩
  have hcall : (Action.timed config "table metadata"
      (client.tableMetadata config.dataset table)).run c = (.ok _, _) := run_timed_of_le hdelay
  rw [ht] at hcall
  exact ⟨t, _, run_bind_of_ok hcall, hschema, rfl⟩

/-- What is looked up is what there is. -/
theorem tableMetadata_eq_ok (k : KeepsColumns config client table columns) {c c' : Clocked σ}
    {t : TableMetadata} (h : (config.tableMetadata client table).run c = (.ok t, c')) :
    columns c.server = some t.schema ∧ columns c'.server = some t.schema := by
  have hsame : columns c'.server = columns c.server :=
    (k.keeps_tableMetadata (columns c.server)).of_run rfl h
  cases hc : columns c.server with
  | some fields =>
    rcases k.run_tableMetadata hc with ⟨t', c₁, hrun, hschema, -⟩
    cases h.symm.trans hrun
    exact ⟨by rw [hschema], by rw [hsame, hc, hschema]⟩
  | none =>
    rcases k.notFound c.server hc with ⟨e, he⟩
    rcases bind_eq_ok h with ⟨answer, c₁, hcall, hanswer⟩
    -- A look-up that was answered at all was answered with the refusal.
    have hrefused : answer = .error e := (timed_eq_ok hcall).1.symm.trans he
    rw [hrefused] at hanswer
    simp only at hanswer
    split at hanswer
    · cases hanswer
    · cases hanswer

/-! ## Creating -/

theorem keeps_waitUntilVisible (k : KeepsColumns config client table columns)
    (v : Option (List FieldSchema)) :
    Keeps (fun c => columns c.server = v) (config.waitUntilVisible client table) := by
  intro c hc
  have hlook : ∀ s, columns s = v →
      columns (client.tableMetadata config.dataset table s).2 = v := by
    intro s hs
    rw [k.asked, hs]
  have hwait := awaitVisible_keeps hlook config.queryTimeoutMs
    (c.now + config.tableCreationTimeoutMs) (c.now + lookInterval) hc
  unfold Config.waitUntilVisible
  simp only [ExceptT.run_mk]
  split <;>
  · rename_i h
    rw [h] at hwait
    exact hwait

theorem keeps_setExpiration (k : KeepsColumns config client table columns)
    (v : Option (List FieldSchema)) (p : Partitioning) :
    Keeps (fun c => columns c.server = v) (config.setExpiration client table p) := by
  refine Keeps.bind (keeps_timed (P := fun s => columns s = v) ?_) ?_
  · intro s hs
    rw [k.queried, hs]
  · intro answer
    cases answer with
    | ok u => exact Keeps.pure ()
    | error e => exact Keeps.throw _

theorem names_of_storedFields {fs : List Field} {gs : List FieldSchema}
    (h : List.Forall₂ (fun f g => Config.storedField f = .ok g) fs gs) :
    gs.map (·.name) = fs.map (·.name) := by
  refine Outcome.map_eq_of_forall₂ ?_ h
  intro f g hg
  exact name_of_storedField hg

theorem newTable_eq_ok {s : Schema} {metadata : TableMetadata}
    (h : config.newTable s = .ok metadata) :
    List.Forall₂ (fun f g => Config.storedField f = .ok g) s.fields metadata.schema := by
  rcases Outcome.bind_eq_ok h with ⟨fields, hfields, hmetadata⟩
  cases hmetadata
  exact Outcome.mapM_eq_ok_iff.1 hfields

theorem nodup_newTable {s : Schema} {metadata : TableMetadata}
    (h : config.newTable s = .ok metadata) : (metadata.schema.map (·.name)).Nodup := by
  rw [names_of_storedFields (newTable_eq_ok h)]
  exact s.nodup

/-- What follows the answer that a table was created. -/
theorem keeps_finishTable (k : KeepsColumns config client table columns)
    (v : Option (List FieldSchema)) :
    Keeps (fun c => columns c.server = v) (do
      config.waitUntilVisible client table
      if let some p := config.partitioning then
        config.setExpiration client table p) := by
  refine Keeps.bind (k.keeps_waitUntilVisible v) ?_
  intro u
  cases config.partitioning with
  | none => exact Keeps.pure ()
  | some p => exact k.keeps_setExpiration v p

/-- A table that was created has the columns that the fields of its schema are stored in. -/
theorem createTable_eq_ok (k : KeepsColumns config client table columns) {s : Schema}
    {c c' : Clocked σ} (h : (config.createTable client table s).run c = (.ok (), c')) :
    ∃ fields, columns c'.server = some fields ∧
      List.Forall₂ (fun f g => Config.storedField f = .ok g) s.fields fields := by
  rcases bind_eq_ok h with ⟨u, c₁, -, h⟩
  rcases bind_eq_ok h with ⟨metadata, c₂, hnew, h⟩
  rcases bind_eq_ok h with ⟨answer, c₃, hcall, h⟩
  have hstored := newTable_eq_ok (congrArg Prod.fst hnew)
  rcases timed_eq_ok hcall with ⟨hanswer, hserver⟩
  cases answer with
  | ok u =>
    have hcreated : columns c₃.server = some metadata.schema := by
      rw [← hserver]
      exact k.created metadata c₂.server hanswer
    exact ⟨metadata.schema, (k.keeps_finishTable _).of_run hcreated h, hstored⟩
  | error e =>
    simp only at h
    split at h
    · cases h
    · cases h

/-- However the creation of a table ends, no two columns have one name. -/
theorem keeps_createTable (k : KeepsColumns config client table columns) (s : Schema) :
    Keeps (fun c => Distinct (columns c.server)) (config.createTable client table s) := by
  refine Keeps.bind (keeps_ofOutcome _ _) ?_
  intro u
  cases hnew : config.newTable s with
  | error e => exact fun c hc => hc
  | ok metadata =>
    have hdistinct : Distinct (some metadata.schema) := by
      intro fields hfields
      cases hfields
      exact nodup_newTable hnew
    change Keeps _ (Action.timed config "create table"
      (client.createTable config.dataset table metadata) >>= _)
    refine Keeps.bind (keeps_timed (P := fun s => Distinct (columns s)) ?_) ?_
    · intro s hs
      cases hanswer : (client.createTable config.dataset table metadata s).1.answer with
      | ok u =>
        rw [k.created metadata s hanswer]
        exact hdistinct
      | error e =>
        rw [k.notCreated metadata s e hanswer]
        exact hs
    · intro answer
      cases answer with
      | ok u => exact Keeps.of_columns (k.keeps_finishTable ·)
      | error e =>
        simp only
        split
        · exact Keeps.throw _
        · exact Keeps.throw _

/-! ## Adding -/

/-- A column is added behind the others. -/
theorem addColumn_eq_ok (k : KeepsColumns config client table columns) {f : Field}
    {fields : List FieldSchema} {c c' : Clocked σ} (hc : columns c.server = some fields)
    (h : (config.addColumn client table f).run c = (.ok (), c')) :
    ∃ g, Config.storedField f = .ok g ∧ columns c'.server = some (fields ++ [g]) := by
  rcases k.run_tableMetadata hc with ⟨t, c₁, hlook, rfl, -⟩
  rcases bind_eq_ok_of_run (run_ofOutcome _) h with ⟨u, -, h⟩
  rw [run_bind_of_ok hlook] at h
  simp only at h
  split at h
  · cases h
  rcases bind_eq_ok_of_run (run_ofOutcome _) h with ⟨g, hstored, h⟩
  split at h
  · cases h
  rcases bind_eq_ok h with ⟨answer, c₂, hcall, h⟩
  rcases timed_eq_ok hcall with ⟨hanswer, hserver⟩
  cases answer with
  | ok u =>
    cases h
    refine ⟨g, hstored, ?_⟩
    rw [← hserver]
    exact k.updated _ _ _ hanswer
  | error e =>
    simp only at h
    split at h
    · cases h
    · cases h

/-- A column with a new name is not taken for one that others have added. -/
theorem addColumn_ne_exists (k : KeepsColumns config client table columns) {f : Field}
    {fields : List FieldSchema} {c c' : Clocked σ} (hc : columns c.server = some fields)
    (hnew : f.name ∉ fields.map (·.name)) (hnd : (fields.map (·.name)).Nodup)
    {t column : String} :
    (config.addColumn client table f).run c ≠ (.error (.columnAlreadyExists t column), c') := by
  intro h
  rcases k.run_tableMetadata hc with ⟨current, c₁, hlook, rfl, -⟩
  rcases bind_eq_error_of_run (run_ofOutcome _) h with ⟨hinvalid, -⟩ | ⟨u, -, h⟩
  · rcases Identifier.validate_eq_error hinvalid with ⟨reason, ⟨⟩⟩
  rw [run_bind_of_ok hlook] at h
  simp only at h
  split at h
  · rename_i hany
    rcases List.any_eq_true.1 hany with ⟨g, hg, hname⟩
    exact hnew (List.mem_map.2 ⟨g, hg, by simpa using hname⟩)
  rcases bind_eq_error_of_run (run_ofOutcome _) h with ⟨hstored, -⟩ | ⟨g, hstored, h⟩
  · exact storedField_eq_error hstored t column rfl
  split at h
  · cases h
  rcases bind_eq_error h with hcall | ⟨answer, c₂, hcall, h⟩
  · cases timed_eq_error hcall
  cases answer with
  | ok u => cases h
  | error e =>
    -- The service refuses a name only if it stands among the fields that were sent.
    have hnames : ((current.schema ++ [g]).map (·.name)).Nodup := by
      rw [List.map_append, List.map_singleton, name_of_storedField hstored]
      simpa using List.Nodup.concat hnew hnd
    have he : ¬ e.isAlreadyExists := by
      intro he
      exact k.refused _ _ _ e (timed_eq_ok hcall).1 (ApiError.isAlreadyExists_iff.1 he) hnames
    simp only [if_neg he] at h
    cases h

end KeepsColumns
end BigQuery
end Ingest
