import Ingest.Proofs.BigQuery.Convergence
import Ingest.Proofs.BigQuery.Sharing
import Ingest.Proofs.Driver.Course

/-!
# Races on a shared service

Others create the same table or append columns while a reconciliation is under way. Most races are
lost without harm: a table or a column that exists already is what was wanted. Only an update that
is overtaken between the look-up and the call is refused as stale (`Overtaken`), and the
reconciliation fails with that answer.
-/

namespace Ingest
namespace BigQuery

open Effect

variable {σ α : Type}

/-! ## Columns that suit a schema -/

/-- A column can be read, and it fits the field of its name if the schema has one. -/
def Suitable (s : Schema) (g : FieldSchema) : Prop :=
  ∃ existing, Config.existingField g = .ok existing ∧
    ∀ f ∈ s.fields, f.name = g.name → checker existing f = none

/-- Each field of a schema can be stored in a column that may be added and suits the schema. -/
def Addable (s : Schema) : Prop :=
  ∀ f ∈ s.fields, ∃ g, Config.storedField f = .ok g ∧ g.mode ≠ .required ∧ Suitable s g

theorem eq_of_name_eq {s : Schema} {f f' : Field} (hf : f ∈ s.fields) (hf' : f' ∈ s.fields)
    (h : f.name = f'.name) : f = f' :=
  List.inj_on_of_nodup_map s.nodup hf hf' h

/-- The column of a field suits its schema, unless the field is marked as part of a list. -/
theorem suitable_of_storedField {s : Schema} {f : Field} {g : FieldSchema} (hf : f ∈ s.fields)
    (hg : Config.storedField f = .ok g) (hinside : insideList f.metadata = false) :
    Suitable s g := by
  refine ⟨storedAs f, existingField_of_storedField hg hinside, ?_⟩
  intro f' hf' hname
  have hsame : f' = f := eq_of_name_eq hf' hf (hname.trans (name_of_storedField hg))
  rw [hsame]
  exact checker_storedAs f

/-- The columns of a table that may not exist. -/
def columnsOf (t : Option TableMetadata) : List FieldSchema :=
  (t.map (·.schema)).getD []

def Suited (s : Schema) (t : Option TableMetadata) : Prop :=
  ∀ g ∈ columnsOf t, Suitable s g

/-- The table exists and has columns of the given names. -/
def Has (names : List String) (t : Option TableMetadata) : Prop :=
  ∃ v, t = some v ∧ ∀ name ∈ names, name ∈ v.schema.map (·.name)

/-- What others may do to a table: they create it or append columns, which suit a schema. -/
def Appends (s : Schema) (t t' : Option TableMetadata) : Prop :=
  t' = t ∨ ∃ v more, t' = some v ∧ v.schema = columnsOf t ++ more ∧ ∀ g ∈ more, Suitable s g

theorem Appends.suited {s : Schema} {t t' : Option TableMetadata} (h : Appends s t t')
    (ht : Suited s t) : Suited s t' := by
  rcases h with rfl | ⟨v, more, rfl, hv, hmore⟩
  · exact ht
  · intro g hg
    change g ∈ v.schema at hg
    rw [hv] at hg
    rcases List.mem_append.1 hg with hg | hg
    · exact ht g hg
    · exact hmore g hg

theorem Appends.has {s : Schema} {t t' : Option TableMetadata} {names : List String}
    (h : Appends s t t') (ht : Has names t) : Has names t' := by
  rcases h with rfl | ⟨v, more, rfl, hv, -⟩
  · exact ht
  · rcases ht with ⟨w, rfl, hw⟩
    refine ⟨v, rfl, ?_⟩
    intro name hname
    rw [hv, List.map_append]
    exact List.mem_append_left _ (hw name hname)

/-! ## A service under its contract -/

/-- An update is sent for a version that is not the present one. -/
def Overtaken (tables : σ → String × String → Option TableMetadata) (call : Moment σ) : Prop :=
  match call.request with
  | .update dataset table _ etag =>
    ∀ v, tables call.before (dataset, table) = some v → v.etag ≠ etag
  | _ => False

/-- A service that guards its tables, refuses a stale update and answers everything else as it is
asked, always in time. -/
structure Prompt (config : Config) (client : Client σ)
    (tables : σ → String × String → Option TableMetadata)
    (spent : σ → String × String → String → Prop) : Prop where
  guards : Guards tables spent client
  found : ∀ {s dataset table v}, tables s (dataset, table) = some v →
    (client.tableMetadata dataset table s).1.answer = .ok v
  notFound : ∀ {s dataset table}, tables s (dataset, table) = none →
    ∃ e, (client.tableMetadata dataset table s).1.answer = .error e ∧ e.NotFound
  accepted : ∀ {s dataset table v} fields, tables s (dataset, table) = some v →
    (client.updateSchema dataset table fields v.etag s).1.answer = .ok ()
  stale : ∀ {s dataset table v etag} fields, tables s (dataset, table) = some v → v.etag ≠ etag →
    ∃ text, (client.updateSchema dataset table fields etag s).1.answer =
      .error ⟨412, "conditionNotMet", text⟩
  created : ∀ {s dataset table} metadata, tables s (dataset, table) = none →
    (client.createTable dataset table metadata s).1.answer = .ok () ∧
      ∃ v, tables (client.createTable dataset table metadata s).2 (dataset, table) = some v ∧
        v.schema = metadata.schema
  taken : ∀ {s dataset table v} metadata, tables s (dataset, table) = some v →
    (∃ e, (client.createTable dataset table metadata s).1.answer = .error e ∧
      e.AlreadyExists) ∧
      tables (client.createTable dataset table metadata s).2 = tables s
  queried : ∀ sql s, (client.query sql s).1.answer = .ok () ∧
    tables (client.query sql s).2 = tables s
  looksInTime : ∀ dataset table s,
    (client.tableMetadata dataset table s).1.delay ≤ config.queryTimeoutMs ∧
      lookInterval + (client.tableMetadata dataset table s).1.delay ≤ config.tableCreationTimeoutMs
  updatesInTime : ∀ dataset table fields etag s,
    (client.updateSchema dataset table fields etag s).1.delay ≤ config.queryTimeoutMs
  createsInTime : ∀ dataset table metadata s,
    (client.createTable dataset table metadata s).1.delay ≤ config.queryTimeoutMs
  queriesInTime : ∀ sql s, (client.query sql s).1.delay ≤ config.queryTimeoutMs

/-! ## Under way -/

section UnderWay

variable (config : Config) (table : String) (s : Schema)
  (tables : σ → String × String → Option TableMetadata)
  (spent : σ → String × String → String → Prop)

/-- An act of others: tables evolve, and the one that is reconciled is created or extended. -/
structure Joins (x y : σ) : Prop where
  evolves : Evolves tables spent x y
  appends : Appends s (tables x (config.dataset, table)) (tables y (config.dataset, table))

/-- Others only join in, the columns suit the schema, and no update has been overtaken. -/
structure UnderWay (x : Shared σ) : Prop where
  others : ∀ act ∈ x.others, ∀ y, Joins config table s tables spent y (act y)
  suited : Suited s (tables x.state (config.dataset, table))
  current : ∀ call ∈ x.calls, ¬ Overtaken tables call

end UnderWay

namespace UnderWay

variable {config : Config} {table : String} {s : Schema}
  {tables : σ → String × String → Option TableMetadata}
  {spent : σ → String × String → String → Prop} {x : Shared σ}

theorem joins (u : UnderWay config table s tables spent x) :
    Joins config table s tables spent x.state x.overtaken := by
  rcases x with ⟨state, others, calls⟩
  cases others with
  | nil => exact ⟨.refl state, .inl rfl⟩
  | cons act others => exact u.others act List.mem_cons_self state

theorem suited_overtaken (u : UnderWay config table s tables spent x) :
    Suited s (tables x.overtaken (config.dataset, table)) :=
  u.joins.appends.suited u.suited

theorem has_overtaken (u : UnderWay config table s tables spent x) {names : List String}
    (h : Has names (tables x.state (config.dataset, table))) :
    Has names (tables x.overtaken (config.dataset, table)) :=
  u.joins.appends.has h

/-- A call that leaves suitable columns and is not overtaken keeps all under way. -/
theorem call (u : UnderWay config table s tables spent x) {request : Request}
    {call : Call σ ApiError α}
    (hsuited : Suited s (tables (call x.overtaken).2 (config.dataset, table)))
    (hcurrent : ¬ Overtaken tables ⟨request, x.overtaken, (call x.overtaken).2⟩) :
    UnderWay config table s tables spent (Shared.call request call x).2 where
  others act hact := u.others act (List.mem_of_mem_tail hact)
  suited := hsuited
  current := by
    intro m hm
    rcases List.mem_append.1 hm with hm | hm
    · exact u.current m hm
    · cases List.mem_singleton.1 hm
      exact hcurrent

end UnderWay

/-! ## Looking -/

/-- Where all columns suit a schema, they can be read, and what is missing is what they do not
name. -/
theorem missingColumns_of_suitable {s : Schema} {gs : List FieldSchema}
    (h : ∀ g ∈ gs, Suitable s g) (table : String) :
    ∃ existing missing, gs.mapM Config.existingField = .ok existing ∧
      missingColumns table (indexFields existing) checker s = .ok missing ∧
      missing.length ≤ s.fields.length ∧ (∀ f ∈ missing, f ∈ s.fields) ∧
      ∀ f ∈ s.fields, f ∈ missing ∨ f.name ∈ gs.map (·.name) := by
  rcases Outcome.exists_forall₂ fun g hg => h g hg with ⟨existing, hsuitable⟩
  have hread : List.Forall₂ (fun g e => Config.existingField g = .ok e) gs existing :=
    hsuitable.imp fun _ _ hge => hge.1
  have hfits : ∀ f ∈ s.fields, ∀ e, indexFields existing f.name = some e →
      checker e f = none := by
    intro f hf e he
    rcases mem_of_indexFields he with ⟨hmem, hname⟩
    rcases Outcome.exists_of_forall₂ hsuitable hmem with ⟨g, -, hg, hfit⟩
    exact hfit f hf (hname.symm.trans (name_of_existingField hg))
  refine ⟨existing, absentFields (indexFields existing) s, Outcome.mapM_eq_ok_iff.2 hread,
    missingColumns_eq_ok_iff.2 ⟨hfits, rfl⟩, List.length_filter_le _ _, ?_, ?_⟩
  · intro f hf
    exact (mem_absentFields.1 hf).1
  · intro f hf
    cases he : indexFields existing f.name with
    | none => exact .inl (mem_absentFields.2 ⟨hf, he⟩)
    | some e =>
      have hmem := indexFields_isSome_iff.1 (by rw [he]; rfl)
      rw [names_of_existingFields hread] at hmem
      exact .inr hmem

/-! ## The operations -/

/-- A table that is found at the first look, in time, is visible. -/
theorem awaitVisible_of_found {lookup : Call σ ApiError TableMetadata} {limit deadline due : Nat}
    {c : Clocked σ} {v : TableMetadata} (hdue : c.now ≤ due)
    (hfound : (lookup c.server).1.answer = .ok v) (hlimit : (lookup c.server).1.delay ≤ limit)
    (hdeadline : due + (lookup c.server).1.delay ≤ deadline) :
    awaitVisible limit lookup deadline due c =
      (some (.ok ()), ⟨(lookup c.server).2, due + (lookup c.server).1.delay⟩) := by
  have hready : c.waitUntil due = ⟨c.server, due⟩ := by
    simp [Clocked.waitUntil, Nat.max_eq_right hdue]
  have hawait := Clocked.await_of_le (c := ⟨c.server, due⟩) hlimit
  rw [hfound] at hawait
  have hlook : look limit lookup ⟨c.server, due⟩ =
      (.visible, ⟨(lookup c.server).2, due + (lookup c.server).1.delay⟩) := by
    rw [look, hawait]
  rw [awaitVisible, dif_neg (by omega)]
  simp only [hready, hlook]
  rw [if_neg (Nat.not_lt.2 hdeadline)]

/-- A call that is answered in time is answered between the acts of others. -/
theorem Action.run_timed_shared {config : Config} (operation : String) (request : Request)
    {call : Call σ ApiError α} {c : Clocked (Shared σ)}
    (h : (call c.server.overtaken).1.delay ≤ config.queryTimeoutMs) :
    ∃ c', (timed config operation (Shared.call request call)).run c =
        (.ok (call c.server.overtaken).1.answer, c') ∧
      c'.server = (Shared.call request call c.server).2 :=
  ⟨_, run_timed_of_le h, rfl⟩

namespace Prompt

variable {config : Config} {client : Client σ} {table : String} {s : Schema}
  {tables : σ → String × String → Option TableMetadata}
  {spent : σ → String × String → String → Prop} {c : Clocked (Shared σ)}

theorem underWay_look (p : Prompt config client tables spent)
    (u : UnderWay config table s tables spent c.server) :
    UnderWay config table s tables spent
      (client.shared.tableMetadata config.dataset table c.server).2 := by
  refine u.call ?_ nofun
  rw [p.guards.asked]
  exact u.suited_overtaken

/-- A table that is there is looked up. -/
theorem run_look (p : Prompt config client tables spent)
    (u : UnderWay config table s tables spent c.server) {v : TableMetadata}
    (hv : tables c.server.overtaken (config.dataset, table) = some v) :
    ∃ c', (config.tableMetadata client.shared table).run c = (.ok v, c') ∧
      UnderWay config table s tables spent c'.server ∧
      tables c'.server.state = tables c.server.overtaken := by
  rcases Action.run_timed_shared "table metadata" (.look config.dataset table)
    (p.looksInTime config.dataset table c.server.overtaken).1 with ⟨c', hcall, hserver⟩
  rw [p.found hv] at hcall
  refine ⟨c', run_bind_of_ok hcall, ?_, ?_⟩
  · rw [hserver]
    exact p.underWay_look u
  · rw [hserver]
    exact p.guards.asked _ _ _

/-- A table that is not there is reported missing. -/
theorem run_look_absent (p : Prompt config client tables spent)
    (u : UnderWay config table s tables spent c.server)
    (hv : tables c.server.overtaken (config.dataset, table) = none) :
    ∃ c', (config.tableMetadata client.shared table).run c =
        (.error (.tableNotFound (config.qualified table)), c') ∧
      UnderWay config table s tables spent c'.server := by
  rcases Action.run_timed_shared "table metadata" (.look config.dataset table)
    (p.looksInTime config.dataset table c.server.overtaken).1 with ⟨c', hcall, hserver⟩
  rcases p.notFound hv with ⟨e, he, hnotFound⟩
  rw [he] at hcall
  refine ⟨c', (run_bind_of_ok hcall).trans ?_, ?_⟩
  · simp only [ApiError.isNotFound_iff.2 hnotFound, if_true]
    rfl
  · rw [hserver]
    exact p.underWay_look u

/-- What is missing is found out if the table is there. -/
theorem run_missingColumns (p : Prompt config client tables spent)
    (u : UnderWay config table s tables spent c.server)
    (hv : Has [] (tables c.server.overtaken (config.dataset, table))) :
    ∃ missing c', (config.missingColumns client.shared table s).run c = (.ok missing, c') ∧
      missing.length ≤ s.fields.length ∧ (∀ f ∈ missing, f ∈ s.fields) ∧
      UnderWay config table s tables spent c'.server ∧
      ∃ names, Has names (tables c'.server.state (config.dataset, table)) ∧
        ∀ f ∈ s.fields, f ∈ missing ∨ f.name ∈ names := by
  rcases hv with ⟨v, hv, -⟩
  rcases p.run_look u hv with ⟨c', hlook, u', hsame⟩
  have hsuited : ∀ g ∈ v.schema, Suitable s g := by
    have hsuited := u.suited_overtaken
    rw [hv] at hsuited
    exact hsuited
  rcases missingColumns_of_suitable hsuited (config.qualified table) with
    ⟨existing, missing, hread, hmissing, hlength, hincoming, hcovered⟩
  refine ⟨missing, c', (run_bind_of_ok hlook).trans ?_, hlength, hincoming, u',
    v.schema.map (·.name), ⟨v, ?_, fun _ => id⟩, hcovered⟩
  · rw [hread]
    exact congrArg (·, c') hmissing
  · rw [hsame, hv]

/-- The answer to a stale update is taken for a failure of the service. -/
theorem not_isAlreadyExists_stale (text : String) :
    (⟨412, "conditionNotMet", text⟩ : ApiError).isAlreadyExists = false :=
  rfl

/-- An update appends its column if the version that was read is the present one, and otherwise it
is refused as stale. -/
theorem run_sendColumn (p : Prompt config client tables spent)
    (u : UnderWay config table s tables spent c.server) {v : TableMetadata} {g : FieldSchema}
    (hv : tables c.server.state (config.dataset, table) = some v) (hg : Suitable s g) :
    (∃ c', (sendColumn config client.shared table v g).run c = (.ok (.ok ()), c') ∧
      UnderWay config table s tables spent c'.server ∧
      ∃ w, tables c'.server.state (config.dataset, table) = some w ∧
        w.schema = v.schema ++ [g]) ∨
    ∃ text c', (sendColumn config client.shared table v g).run c =
        (.ok (.error ⟨412, "conditionNotMet", text⟩), c') ∧
      ∃ call ∈ c'.server.calls, Overtaken tables call := by
  let fields := v.schema ++ [g]
  rcases Action.run_timed_shared "update schema" (.update config.dataset table fields v.etag)
    (p.updatesInTime config.dataset table fields v.etag c.server.overtaken) with
    ⟨c', hcall, hserver⟩
  have hhas : Has [] (tables c.server.state (config.dataset, table)) := ⟨v, hv, nofun⟩
  rcases u.has_overtaken hhas with ⟨w, hw, -⟩
  by_cases htag : w.etag = v.etag
  · have hsame : w = v := p.guards.eq_of_etag hv u.joins.evolves hw htag
    subst hsame
    have hanswer := p.accepted fields hw
    rw [hanswer] at hcall
    rcases p.guards.updated hanswer with ⟨_, extended, -, -, hafter, hschema, -⟩
    have hextended : tables (client.updateSchema config.dataset table fields w.etag
        c.server.overtaken).2 (config.dataset, table) = some extended := by
      rw [hafter, Function.update_self]
    refine .inl ⟨c', hcall, ?_, extended, ?_, hschema⟩
    · rw [hserver]
      refine u.call ?_ fun hovertaken => hovertaken w hw rfl
      rw [hextended]
      intro g' hg'
      change g' ∈ extended.schema at hg'
      rw [hschema] at hg'
      rcases List.mem_append.1 hg' with hg' | hg'
      · have hsuited := u.suited_overtaken
        rw [hw] at hsuited
        exact hsuited g' hg'
      · rw [List.mem_singleton.1 hg']
        exact hg
    · rw [hserver]
      exact hextended
  -- The version was replaced since it was read, so that the update is not taken.
  · rcases p.stale fields hw htag with ⟨text, hanswer⟩
    rw [hanswer] at hcall
    refine .inr ⟨text, c', hcall, ⟨.update config.dataset table fields v.etag, c.server.overtaken,
      (client.updateSchema config.dataset table fields v.etag c.server.overtaken).2⟩, ?_, ?_⟩
    · rw [hserver]
      exact List.mem_append_right _ (List.mem_singleton.2 rfl)
    · intro w' hw'
      rw [Option.some.inj (hw'.symm.trans hw)]
      exact htag

/-- A new column is added, or others have added it, or the update was overtaken. -/
theorem run_addColumn (p : Prompt config client tables spent)
    (u : UnderWay config table s tables spent c.server)
    (hvalid : Identifier.validate table = .ok ()) {f : Field}
    (hf : ∃ g, Config.storedField f = .ok g ∧ g.mode ≠ .required ∧ Suitable s g)
    {names : List String} (hnames : Has names (tables c.server.state (config.dataset, table))) :
    (∃ c', (config.addColumn client.shared table f).run c = (.ok (), c') ∧
      UnderWay config table s tables spent c'.server ∧
      Has (f.name :: names) (tables c'.server.state (config.dataset, table))) ∨
    (∃ name column c', (config.addColumn client.shared table f).run c =
        (.error (.columnAlreadyExists name column), c') ∧
      UnderWay config table s tables spent c'.server ∧
      Has (f.name :: names) (tables c'.server.state (config.dataset, table))) ∨
    ∃ e c', (config.addColumn client.shared table f).run c = (.error e, c') ∧
      (∀ name column, e ≠ .columnAlreadyExists name column) ∧
      ∃ call ∈ c'.server.calls, Overtaken tables call := by
  rcases u.has_overtaken hnames with ⟨v, hv, hvnames⟩
  rcases p.run_look u hv with ⟨c₁, hlook, u₁, hsame⟩
  rcases hf with ⟨g, hg, hmode, hsuitable⟩
  have hv₁ : tables c₁.server.state (config.dataset, table) = some v := by rw [hsame, hv]
  have hadds := adds_addColumn config client.shared table f c
  generalize (config.addColumn client.shared table f).run c = ran at hadds ⊢
  cases hadds with
  | invalid h =>
    rw [hvalid] at h
    cases h
  | unread h =>
    rw [hlook] at h
    cases h
  | present h hmem =>
    rw [hlook] at h
    cases h
    have hall := List.forall_mem_cons.2 ⟨hmem, hvnames⟩
    exact .inr (.inl ⟨_, _, c₁, rfl, u₁, v, hv₁, hall⟩)
  | notStored h he =>
    rw [hg] at he
    cases he
  | required h hcolumn hrequired =>
    rw [hg] at hcolumn
    cases hcolumn
    exact absurd hrequired hmode
  | late q hsend =>
    cases hlook.symm.trans q.looked
    cases hg.symm.trans q.stored
    rcases p.run_sendColumn u₁ hv₁ hsuitable with ⟨c₂, hsent, -⟩ | ⟨text, c₂, hsent, -⟩ <;>
    · rw [hsent] at hsend
      cases hsend
  | appended q hsend =>
    cases hlook.symm.trans q.looked
    cases hg.symm.trans q.stored
    rcases p.run_sendColumn u₁ hv₁ hsuitable with
      ⟨c₂, hsent, u₂, w, hw, hschema⟩ | ⟨text, c₂, hsent, -⟩
    · cases hsent.symm.trans hsend
      refine .inl ⟨_, rfl, u₂, w, hw, ?_⟩
      rw [hschema, List.map_append, List.forall_mem_cons]
      constructor
      · exact List.mem_append_right _ (List.mem_singleton.2 (name_of_storedField hg).symm)
      · intro name hname
        exact List.mem_append_left _ (hvnames name hname)
    · cases hsent.symm.trans hsend
  | refused q hsend =>
    cases hlook.symm.trans q.looked
    cases hg.symm.trans q.stored
    rcases p.run_sendColumn u₁ hv₁ hsuitable with ⟨c₂, hsent, -⟩ | ⟨text, c₂, hsent, hovertaken⟩
    · cases hsent.symm.trans hsend
    · cases hsent.symm.trans hsend
      refine .inr (.inr ⟨_, _, rfl, ?_, hovertaken⟩)
      intro name column
      rw [not_isAlreadyExists_stale]
      nofun

/-- A table that was created is visible at the first look. -/
theorem run_waitUntilVisible (p : Prompt config client tables spent)
    (u : UnderWay config table s tables spent c.server) {names : List String}
    (h : Has names (tables c.server.state (config.dataset, table))) :
    ∃ c', (config.waitUntilVisible client.shared table).run c = (.ok (), c') ∧
      UnderWay config table s tables spent c'.server ∧
      Has names (tables c'.server.state (config.dataset, table)) := by
  have hhas := u.has_overtaken h
  rcases hhas with ⟨v, hv, hnames⟩
  have hfound : (client.shared.tableMetadata config.dataset table c.server).1.answer = .ok v :=
    p.found hv
  rcases p.looksInTime config.dataset table c.server.overtaken with ⟨hlimit, hvisible⟩
  have hvisible' : c.now + lookInterval +
      (client.tableMetadata config.dataset table c.server.overtaken).1.delay ≤
        c.now + config.tableCreationTimeoutMs := by omega
  have hawait := awaitVisible_of_found (Nat.le_add_right c.now lookInterval) hfound hlimit hvisible'
  have hrun : (config.waitUntilVisible client.shared table).run c = (.ok (),
      ⟨(client.shared.tableMetadata config.dataset table c.server).2, c.now + lookInterval +
        (client.tableMetadata config.dataset table c.server.overtaken).1.delay⟩) := by
    unfold Config.waitUntilVisible
    simp only [ExceptT.run_mk, hawait]
    rfl
  refine ⟨_, hrun, p.underWay_look u, ?_⟩
  have hsame : tables (client.shared.tableMetadata config.dataset table c.server).2.state =
      tables c.server.overtaken := p.guards.asked _ _ _
  rw [hsame]
  exact u.has_overtaken h

theorem run_setExpiration (p : Prompt config client tables spent)
    (u : UnderWay config table s tables spent c.server) {names : List String}
    (h : Has names (tables c.server.state (config.dataset, table))) (q : Partitioning) :
    ∃ c', (config.setExpiration client.shared table q).run c = (.ok (), c') ∧
      UnderWay config table s tables spent c'.server ∧
      Has names (tables c'.server.state (config.dataset, table)) := by
  let sql := expirationStatement config.dataset table q.expirationDays
  rcases Action.run_timed_shared "set partition expiration" (.query sql)
    (p.queriesInTime sql c.server.overtaken) with ⟨c', hcall, hserver⟩
  rcases p.queried sql c.server.overtaken with ⟨hanswer, hsame⟩
  rw [hanswer] at hcall
  refine ⟨c', run_bind_of_ok hcall, ?_, ?_⟩
  · rw [hserver]
    refine u.call ?_ nofun
    rw [hsame]
    exact u.suited_overtaken
  · rw [hserver]
    change Has names (tables (client.query sql c.server.overtaken).2 (config.dataset, table))
    rw [hsame]
    exact u.has_overtaken h

/-- The table is created with all columns, or others were faster. -/
theorem run_createTable (p : Prompt config client tables spent)
    (u : UnderWay config table s tables spent c.server)
    (hvalid : Identifier.validate table = .ok ()) (hs : Addable s) :
    (∃ c', (config.createTable client.shared table s).run c = (.ok (), c') ∧
      UnderWay config table s tables spent c'.server ∧
      Has (s.fields.map (·.name)) (tables c'.server.state (config.dataset, table))) ∨
    ∃ name c', (config.createTable client.shared table s).run c =
        (.error (.tableAlreadyExists name), c') ∧
      UnderWay config table s tables spent c'.server ∧
      Has [] (tables c'.server.state (config.dataset, table)) := by
  rcases Outcome.exists_forall₂ fun f hf => hs f hf with ⟨gs, hstored⟩
  have hread : List.Forall₂ (fun f g => Config.storedField f = .ok g) s.fields gs :=
    hstored.imp fun _ _ h => h.1
  let metadata : TableMetadata := ⟨gs, config.partitioning.map (·.timePartitioning), none⟩
  have hnew : config.newTable s = .ok metadata := by
    rw [Config.newTable, Outcome.mapM_eq_ok_iff.2 hread]
    rfl
  have hnames : gs.map (·.name) = s.fields.map (·.name) :=
    KeepsColumns.names_of_storedFields hread
  rcases Action.run_timed_shared "create table" (.create config.dataset table metadata)
    (p.createsInTime config.dataset table metadata c.server.overtaken) with ⟨c₁, hcall, hserver⟩
  unfold Config.createTable
  rw [hvalid, hnew, run_bind_of_ok (run_ofOutcome _ c),
    run_bind_of_ok (run_ofOutcome _ c)]
  cases hv : tables c.server.overtaken (config.dataset, table) with
  | some v =>
    rcases p.taken metadata hv with ⟨⟨e, he, hexists⟩, hsame⟩
    rw [he] at hcall
    refine .inr ⟨config.qualified table, c₁, (run_bind_of_ok hcall).trans ?_, ?_, ?_⟩
    · simp only [ApiError.isAlreadyExists_iff.2 hexists, if_true]
      rfl
    · rw [hserver]
      refine u.call ?_ nofun
      rw [hsame]
      exact u.suited_overtaken
    · rw [hserver]
      exact ⟨v, (congrFun hsame _).trans hv, nofun⟩
  | none =>
    rcases p.created metadata hv with ⟨hanswer, w, hw, hschema⟩
    rw [hanswer] at hcall
    have u₁ : UnderWay config table s tables spent c₁.server := by
      rw [hserver]
      refine u.call ?_ nofun
      rw [hw]
      intro g hg
      change g ∈ w.schema at hg
      rw [hschema] at hg
      rcases Outcome.exists_of_forall₂ hstored hg with ⟨f, -, -, -, hsuitable⟩
      exact hsuitable
    have h₁ : Has (s.fields.map (·.name)) (tables c₁.server.state (config.dataset, table)) := by
      rw [hserver]
      refine ⟨w, hw, ?_⟩
      intro name hname
      rw [hschema, hnames]
      exact hname
    rcases p.run_waitUntilVisible u₁ h₁ with ⟨c₂, hwait, u₂, h₂⟩
    have hcreate : (Action.timed config "create table"
        (client.shared.createTable config.dataset table metadata)).run c = (.ok (.ok ()), c₁) :=
      hcall
    left
    rw [run_bind_of_ok hcreate]
    simp only
    rw [run_bind_of_ok hwait]
    cases config.partitioning with
    | none => exact ⟨c₂, rfl, u₂, h₂⟩
    | some q => exact p.run_setExpiration u₂ h₂ q

/-! ## The course of a reconciliation -/

section Course

variable (config table s tables spent)

def Before (c : Clocked (Shared σ)) : Prop :=
  UnderWay config table s tables spent c.server

def Existing (c : Clocked (Shared σ)) : Prop :=
  UnderWay config table s tables spent c.server ∧
    Has [] (tables c.server.state (config.dataset, table))

/-- The table exists and has a column for each field that is not among the missing ones. -/
structure Lacking (missing : List Field) (c : Clocked (Shared σ)) : Prop where
  underWay : UnderWay config table s tables spent c.server
  incoming : ∀ f ∈ missing, f ∈ s.fields
  covered : ∃ names, Has names (tables c.server.state (config.dataset, table)) ∧
    ∀ f ∈ s.fields, f ∈ missing ∨ f.name ∈ names

end Course

/-- The field in front is not lacking any more, however its column came there. -/
theorem Lacking.tail {f : Field} {rest : List Field} {names : List String}
    {c' : Clocked (Shared σ)} (l : Lacking config table s tables spent (f :: rest) c)
    (hcovered : ∀ g ∈ s.fields, g ∈ f :: rest ∨ g.name ∈ names)
    (u : UnderWay config table s tables spent c'.server)
    (h : Has (f.name :: names) (tables c'.server.state (config.dataset, table))) :
    Lacking config table s tables spent rest c' where
  underWay := u
  incoming g hg := l.incoming g (List.mem_cons_of_mem f hg)
  covered := by
    refine ⟨f.name :: names, h, Driver.covered_of_cons ?_ List.mem_cons_self⟩
    intro g hg
    exact (hcovered g hg).imp_right (List.mem_cons_of_mem f.name)

theorem course (p : Prompt config client tables spent)
    (hvalid : Identifier.validate table = .ok ()) (hs : Addable s) :
    Driver.Course (config.driver client.shared) (fun c c' => c' = c) table s
      (Before config table s tables spent) (Existing config table s tables spent)
      (Lacking config table s tables spent)
      (fun _ c => ∃ call ∈ c.server.calls, Overtaken tables call) where
  overtakenBefore h heq := heq ▸ h
  overtakenExisting h heq := heq ▸ h
  overtakenLacking h heq := heq ▸ h
  look := by
    intro c u
    cases hv : tables c.server.overtaken (config.dataset, table) with
    | none =>
      rcases p.run_look_absent u hv with ⟨c', hlook, u'⟩
      refine .inl ⟨config.qualified table, c', ?_, u'⟩
      change (config.missingColumns client.shared table s).run c = _
      rw [Config.missingColumns, run_bind, hlook]
    | some v =>
      rcases p.run_missingColumns u ⟨v, hv, nofun⟩ with
        ⟨missing, c', hrun, hlength, hincoming, u', hcovered⟩
      exact .inr ⟨missing, c', hrun, hlength, u', hincoming, hcovered⟩
  create := by
    intro c u
    rcases p.run_createTable u hvalid hs with ⟨c', hrun, u', h⟩ | ⟨name, c', hrun, u', h⟩
    · refine .inl ⟨c', hrun, u', nofun, _, h, ?_⟩
      intro f hf
      exact .inr (List.mem_map_of_mem hf)
    · exact .inr ⟨name, c', hrun, u', h⟩
  lookAgain := by
    rintro c ⟨u, h⟩
    rcases p.run_missingColumns u (u.has_overtaken h) with
      ⟨missing, c', hrun, hlength, hincoming, u', hcovered⟩
    exact ⟨missing, c', hrun, hlength, u', hincoming, hcovered⟩
  add := by
    intro f rest c l
    rcases l.covered with ⟨names, hnames, hcovered⟩
    have hf := hs f (l.incoming f List.mem_cons_self)
    rcases p.run_addColumn l.underWay hvalid hf hnames with
      ⟨c', hrun, u', h⟩ | ⟨name, column, c', hrun, u', h⟩ | ⟨e, c', hrun, hne, hovertaken⟩
    · exact .inl ⟨c', hrun, l.tail hcovered u' h⟩
    · exact .inr (.inl ⟨name, column, c', hrun, l.tail hcovered u' h⟩)
    · exact .inr (.inr ⟨e, c', hrun, hne, hovertaken⟩)

end Prompt

/-! ## Lost races -/

/-- Among others that only create the table or append columns, a reconciliation succeeds and all
fields have columns, if and only if none of its updates is overtaken. -/
theorem reconcile_races_iff {client : Client σ}
    {tables : σ → String × String → Option TableMetadata}
    {spent : σ → String × String → String → Prop} (config : Config)
    (p : Prompt config client tables spent) (table : String)
    (hvalid : Identifier.validate table = .ok ()) (s : Schema) (hs : Addable s) (state : σ)
    (hstate : Suited s (tables state (config.dataset, table))) (others : List (σ → σ))
    (hothers : ∀ act ∈ others, ∀ x, Joins config table s tables spent x (act x))
    (now rounds : Nat) :
    let ran := ((config.driver client.shared).reconcile Driver.quiet table s (rounds + 2)).run
      ⟨{ state, others }, now⟩
    ((∃ result, ran.1 = .ok (some result)) ∧
        Has (s.fields.map (·.name)) (tables ran.2.server.state (config.dataset, table))) ↔
      ∀ call ∈ ran.2.server.calls, ¬ Overtaken tables call := by
  intro ran
  have u : UnderWay config table s tables spent { state, others } := ⟨hothers, hstate, nofun⟩
  have hends := (p.course hvalid hs).ends (t := ⟨{ state, others }, now⟩) u rounds
  rcases hends.interpret fun _ => rfl with ⟨log, hpost⟩
  rw [Driver.Caller.interpret_reconciling] at hpost
  change Driver.Finished table _ _ ran.1 log ran.2 at hpost
  cases hanswer : ran.1 with
  | error e =>
    rw [hanswer] at hpost
    rcases hpost with ⟨call, hcall, hovertaken⟩
    constructor
    · rintro ⟨⟨result, hok⟩, -⟩
      cases hok
    · intro hcurrent
      exact absurd hovertaken (hcurrent call hcall)
  | ok result =>
    rw [hanswer] at hpost
    rcases hpost with ⟨⟨r, rfl, -⟩, l⟩
    rcases l.covered with ⟨names, ⟨v, hv, hnames⟩, hcovered⟩
    refine ⟨fun _ => l.underWay.current, fun _ => ⟨⟨r, rfl⟩, v, hv, ?_⟩⟩
    intro name hname
    rcases List.mem_map.1 hname with ⟨f, hf, rfl⟩
    rcases hcovered f hf with hmem | hmem
    · cases hmem
    · exact hnames f.name hmem

namespace Store

theorem prompt (config : Config) (h : lookInterval ≤ config.tableCreationTimeoutMs) :
    Prompt config client tables spent where
  guards := guards
  found := by
    intro s dataset table v hv
    simp only [client, hv]
  notFound := by
    intro s dataset table hv
    exact ⟨⟨404, "notFound", "Not found"⟩, by simp only [client, hv], .inl rfl⟩
  accepted := by
    intro s dataset table v fields hv
    simp only [client, hv, if_true]
  stale := by
    intro s dataset table v etag fields hv hetag
    exact ⟨"etag mismatch", by simp only [client, hv, if_neg hetag]⟩
  created := by
    intro s dataset table metadata hv
    refine ⟨by simp only [client, hv], { metadata with etag := some (tag s.next) }, ?_, rfl⟩
    simp only [client, hv, tables_put, Function.update_self]
  taken := by
    intro s dataset table v metadata hv
    exact ⟨⟨⟨409, "duplicate", "Already Exists"⟩, by simp only [client, hv], .inl rfl⟩,
      by simp only [client, hv]⟩
  queried sql s := ⟨rfl, rfl⟩
  looksInTime dataset table s := by
    have hdelay : (client.tableMetadata dataset table s).1.delay = 0 := by
      simp only [client]
      split <;> rfl
    rw [hdelay]
    exact ⟨Nat.zero_le _, h⟩
  updatesInTime dataset table fields etag s := by
    have hdelay : (client.updateSchema dataset table fields etag s).1.delay = 0 := by
      simp only [client]
      split
      · split <;> rfl
      · rfl
    rw [hdelay]
    exact Nat.zero_le _
  createsInTime dataset table metadata s := by
    have hdelay : (client.createTable dataset table metadata s).1.delay = 0 := by
      simp only [client]
      split <;> rfl
    rw [hdelay]
    exact Nat.zero_le _
  queriesInTime sql s := Nat.zero_le _

/-- Appends columns to a table, or creates it with them. -/
def join (key : String × String) (columns : List FieldSchema) (s : Store) : Store :=
  s.put key { (s.tables key).getD ⟨[], none, none⟩ with
    schema := columnsOf (s.tables key) ++ columns }

theorem joins_join {config : Config} {table : String} {s : Schema} {columns : List FieldSchema}
    (h : ∀ g ∈ columns, Suitable s g) (x : Store) :
    Joins config table s tables spent x (x.join (config.dataset, table) columns) where
  evolves := evolves_put _ _ x
  appends := by
    have htable := congrFun (tables_put (config.dataset, table)
      { (x.tables (config.dataset, table)).getD ⟨[], none, none⟩ with
        schema := columnsOf (x.tables (config.dataset, table)) ++ columns } x)
      (config.dataset, table)
    rw [Function.update_self] at htable
    exact .inr ⟨_, columns, htable, rfl, h⟩

theorem joins_id {config : Config} {table : String} {s : Schema} (x : Store) :
    Joins config table s tables spent x (id x) :=
  ⟨.refl x, .inl rfl⟩

end Store

namespace Races

def config : Config := { projectId := "p", dataset := "d" }

/-- A nullable number. -/
def field (name : String) : Field :=
  .plain name (.scalar .int64) true

def column (name : String) : FieldSchema :=
  ⟨name, .integer, .nullable, none, []⟩

def schema : Schema :=
  ⟨["a", "b", "c"].map field, by decide⟩

theorem storedField_field {name : String} (h : name ∈ ["a", "b", "c"]) :
    Config.storedField (field name) = .ok (column name) := by
  simp only [List.mem_cons, List.not_mem_nil, or_false] at h
  rcases h with rfl | rfl | rfl <;> rfl

theorem suitable_column {name : String} (h : name ∈ ["a", "b", "c"]) :
    Suitable schema (column name) :=
  suitable_of_storedField (List.mem_map_of_mem h) (storedField_field h) rfl

theorem addable_schema : Addable schema := by
  intro f hf
  rcases List.mem_map.1 hf with ⟨name, hname, rfl⟩
  exact ⟨column name, storedField_field hname, nofun, suitable_column hname⟩

/-- Others create the table with some columns or append them. -/
def join (names : List String) : Store → Store :=
  Store.join ("d", "t") (names.map column)

theorem joins_join {names : List String} (h : names ⊆ ["a", "b", "c"]) (x : Store) :
    Joins config "t" schema Store.tables Store.spent x (join names x) := by
  refine Store.joins_join ?_ x
  intro g hg
  rcases List.mem_map.1 hg with ⟨name, hname, rfl⟩
  exact suitable_column (h hname)

/-- What others do: they create the table before it is to be created here, and add a column before
it is looked for here. -/
def tolerated : List (Store → Store) :=
  [id, join ["a"], id, join ["b"]]

/-- What others do: they create the table first, and add a column between a look-up and the
update that follows. -/
def overtaking : List (Store → Store) :=
  [join ["a", "b"], id, join ["c"]]

theorem joins_of_mem {act : Store → Store} (h : act ∈ tolerated ++ overtaking) (x : Store) :
    Joins config "t" schema Store.tables Store.spent x (act x) := by
  simp only [tolerated, overtaking, List.cons_append, List.nil_append, List.mem_cons,
    List.not_mem_nil, or_false] at h
  rcases h with rfl | rfl | rfl | rfl | rfl | rfl | rfl
  all_goals first
    | exact Store.joins_id x
    | exact joins_join (by simp) x

end Races

/-- The creation of the table and of one column is lost to others, and the last column is added. -/
theorem reconcile_races_iff_tolerated :
    let ran := ((Races.config.driver Store.client.shared).reconcile Driver.quiet "t" Races.schema
      2).run ⟨{ state := {}, others := Races.tolerated }, 0⟩
    ran.1 = .ok (some (.columnsAdded 1)) ∧
      ∀ call ∈ ran.2.server.calls, ¬ Overtaken Store.tables call := by
  intro ran
  have hiff := reconcile_races_iff Races.config (Store.prompt Races.config (by decide)) "t" rfl
    Races.schema Races.addable_schema {} nofun Races.tolerated
    (fun act hact => Races.joins_of_mem (List.mem_append_left _ hact)) 0 0
  have hadded : ran.1 = .ok (some (.columnsAdded 1)) := rfl
  refine ⟨hadded, hiff.1 ⟨⟨_, hadded⟩, ?_⟩⟩
  exact ⟨_, rfl, by decide⟩

/-- A column that others add between a look-up and the update that follows lets the reconciliation
fail, although the table then has all columns. -/
theorem reconcile_fails_when_overtaken :
    let ran := ((Races.config.driver Store.client.shared).reconcile Driver.quiet "t" Races.schema
      2).run ⟨{ state := {}, others := Races.overtaking }, 0⟩
    Prompt Races.config Store.client Store.tables Store.spent ∧ Addable Races.schema ∧
      (∀ act ∈ Races.overtaking, ∀ x,
        Joins Races.config "t" Races.schema Store.tables Store.spent x (act x)) ∧
      ran.1 = .error (ApiError.toFailure ⟨412, "conditionNotMet", "etag mismatch"⟩) ∧
      Has ["a", "b", "c"] (ran.2.server.state.tables ("d", "t")) := by
  intro ran
  refine ⟨Store.prompt Races.config (by decide), Races.addable_schema,
    fun act hact => Races.joins_of_mem (List.mem_append_right _ hact), rfl, ?_⟩
  exact ⟨_, rfl, by decide⟩

end BigQuery
end Ingest
