import Ingest.Proofs.BigQuery.Server
import Mathlib.Logic.Function.Basic

/-!
# A service that others use too

Between two calls of a driver others can change the tables. `Client.shared` lets them act before
each call and notes the states between which the call took place. A service that guards its tables
gives each version a tag of its own (`Guards`) and takes an update only for the present version.
Then a column is added to the fields that the table has at that moment, or nothing is changed.
-/

namespace Ingest
namespace BigQuery

open Effect

variable {σ α : Type}

/-! ## Calls between those of others -/

/-- A call to a service. -/
inductive Request where
  | create (dataset table : String) (metadata : TableMetadata)
  | look (dataset table : String)
  | update (dataset table : String) (fields : List FieldSchema) (etag : Option String)
  | query (sql : String)
  | insert (dataset table : String) (rows : List Json)
  | load (dataset table text : String)

/-- A call with the states between which it took place. -/
structure Moment (σ : Type) where
  request : Request
  before : σ
  after : σ

/-- A service that others use too. -/
structure Shared (σ : Type) where
  state : σ
  /-- What others do before each of the following calls. -/
  others : List (σ → σ) := []
  calls : List (Moment σ) := []

/-- The state after the next act of others. -/
def Shared.overtaken (s : Shared σ) : σ :=
  (s.others.head?.getD id) s.state

/-- A call that takes place after the next act of others. -/
def Shared.call (request : Request) (call : Call σ ApiError α) : Call (Shared σ) ApiError α :=
  fun s =>
    let before := s.overtaken
    let answered := call before
    (answered.1,
      { state := answered.2
        others := s.others.tail
        calls := s.calls ++ [⟨request, before, answered.2⟩] })

/-- The same client between others. -/
def Client.shared (client : Client σ) : Client (Shared σ) where
  createTable dataset table metadata :=
    Shared.call (.create dataset table metadata) (client.createTable dataset table metadata)
  tableMetadata dataset table :=
    Shared.call (.look dataset table) (client.tableMetadata dataset table)
  updateSchema dataset table fields etag :=
    Shared.call (.update dataset table fields etag) (client.updateSchema dataset table fields etag)
  query sql := Shared.call (.query sql) (client.query sql)
  insertRows dataset table rows :=
    Shared.call (.insert dataset table rows) (client.insertRows dataset table rows)
  loadLines dataset table text :=
    Shared.call (.load dataset table text) (client.loadLines dataset table text)

/-! ## How an addition can end -/

section Addition

variable (config : Config) (client : Client σ) (table : String) (field : Field) (c : Clocked σ)

/-- A version of the table was read to which the field can be added as a column. -/
structure Prepared (current : TableMetadata) (column : FieldSchema) (c₁ : Clocked σ) : Prop where
  looked : (config.tableMetadata client table).run c = (.ok current, c₁)
  new : field.name ∉ current.schema.map (·.name)
  stored : Config.storedField field = .ok column
  notRequired : column.mode ≠ .required

/-- The call that sends the fields of a version back with one more. -/
def sendColumn (current : TableMetadata) (column : FieldSchema) :
    Action σ (Except ApiError Unit) :=
  Action.timed config "update schema"
    (client.updateSchema config.dataset table (current.schema ++ [column]) current.etag)

/-- Every way in which adding a column can end. -/
inductive Adds : Outcome Unit × Clocked σ → Prop
  /-- The name of the table is refused before any call. -/
  | invalid {e : Failure} : Identifier.validate table = .error e → Adds (.error e, c)
  | unread {e : Failure} {c₁ : Clocked σ} :
      (config.tableMetadata client table).run c = (.error e, c₁) → Adds (.error e, c₁)
  | present {current : TableMetadata} {c₁ : Clocked σ} :
      (config.tableMetadata client table).run c = (.ok current, c₁) →
      field.name ∈ current.schema.map (·.name) →
        Adds (.error (.columnAlreadyExists (config.qualified table) field.name), c₁)
  | notStored {current : TableMetadata} {c₁ : Clocked σ} {e : Failure} :
      (config.tableMetadata client table).run c = (.ok current, c₁) →
      Config.storedField field = .error e → Adds (.error e, c₁)
  | required {current : TableMetadata} {c₁ : Clocked σ} {column : FieldSchema} :
      (config.tableMetadata client table).run c = (.ok current, c₁) →
      Config.storedField field = .ok column → column.mode = .required →
        Adds (.error (.unsupportedWarehouseType mapperName
          ("add required column " ++ field.name)), c₁)
  /-- The answer to the update did not arrive in time. -/
  | late {current : TableMetadata} {c₁ c₂ : Clocked σ} {column : FieldSchema} {e : Failure} :
      Prepared config client table field c current column c₁ →
      (sendColumn config client table current column).run c₁ = (.error e, c₂) →
        Adds (.error e, c₂)
  | appended {current : TableMetadata} {c₁ c₂ : Clocked σ} {column : FieldSchema} :
      Prepared config client table field c current column c₁ →
      (sendColumn config client table current column).run c₁ = (.ok (.ok ()), c₂) →
        Adds (.ok (), c₂)
  | refused {current : TableMetadata} {c₁ c₂ : Clocked σ} {column : FieldSchema}
      {e : ApiError} :
      Prepared config client table field c current column c₁ →
      (sendColumn config client table current column).run c₁ = (.ok (.error e), c₂) →
        Adds (.error (if e.isAlreadyExists then
          .columnAlreadyExists (config.qualified table) field.name else e.toFailure), c₂)

end Addition

theorem any_name_iff {fields : List FieldSchema} {name : String} :
    (fields.any fun f => f.name == name) = true ↔ name ∈ fields.map (·.name) := by
  simp [List.any_eq_true]

theorem adds_addColumn (config : Config) (client : Client σ) (table : String) (field : Field)
    (c : Clocked σ) :
    Adds config client table field c ((config.addColumn client table field).run c) := by
  unfold Config.addColumn
  cases hvalid : Identifier.validate table with
  | error e => exact .invalid hvalid
  | ok u =>
    rw [run_bind_of_ok (run_ofOutcome _ c)]
    rcases hlook : (config.tableMetadata client table).run c with ⟨answer, c₁⟩
    cases answer with
    | error e =>
      rw [run_bind, hlook]
      exact .unread hlook
    | ok current =>
      rw [run_bind_of_ok hlook]
      by_cases hany : (current.schema.any fun f => f.name == field.name) = true
      · simp only [if_pos hany]
        exact .present hlook (any_name_iff.1 hany)
      · simp only [if_neg hany]
        have hnew : field.name ∉ current.schema.map (·.name) := mt any_name_iff.2 hany
        cases hstored : Config.storedField field with
        | error e => exact .notStored hlook hstored
        | ok column =>
          rw [run_bind_of_ok (run_ofOutcome (.ok column) c₁)]
          by_cases hmode : column.mode = .required
          · simp only [if_pos hmode]
            exact .required hlook hstored hmode
          · simp only [if_neg hmode]
            have hprepared : Prepared config client table field c current column c₁ :=
              ⟨hlook, hnew, hstored, hmode⟩
            rcases hsend : (sendColumn config client table current column).run c₁ with
              ⟨answer, c₂⟩
            cases answer with
            | error e =>
              rw [run_bind, ← sendColumn, hsend]
              exact .late hprepared hsend
            | ok answer =>
              rw [← sendColumn, run_bind_of_ok hsend]
              cases answer with
              | ok u => exact .appended hprepared hsend
              | error e =>
                have hrefused := Adds.refused hprepared hsend
                simp only
                split
                · rename_i he
                  rw [if_pos he] at hrefused
                  exact hrefused
                · rename_i he
                  rw [if_neg he] at hrefused
                  exact hrefused

/-! ## Calls and their states -/

section Calls

variable {config : Config} {client : Client σ} {table : String} {c c₁ c₂ : Clocked σ}

theorem server_tableMetadata {answer : Outcome TableMetadata}
    (h : (config.tableMetadata client table).run c = (answer, c₁)) :
    c₁.server = (client.tableMetadata config.dataset table c.server).2 := by
  have hserver : ((Action.timed config "table metadata"
      (client.tableMetadata config.dataset table)).run c).2.server =
      (client.tableMetadata config.dataset table c.server).2 := server_timed _ _ _ c
  rw [← hserver]
  rcases hcall : (Action.timed config "table metadata"
    (client.tableMetadata config.dataset table)).run c with ⟨found, c'⟩
  unfold Config.tableMetadata at h
  rw [run_bind, hcall] at h
  cases found with
  | error e =>
    cases h
    rfl
  | ok found =>
    cases found with
    | ok t =>
      cases h
      rfl
    | error e =>
      simp only at h
      split at h <;>
      · cases h
        rfl

theorem answer_of_tableMetadata {t : TableMetadata}
    (h : (config.tableMetadata client table).run c = (.ok t, c₁)) :
    (client.tableMetadata config.dataset table c.server).1.answer = .ok t := by
  rcases bind_eq_ok h with ⟨found, c', hcall, hfound⟩
  rw [(timed_eq_ok hcall).1]
  cases found with
  | ok t' =>
    cases hfound
    rfl
  | error e =>
    simp only at hfound
    split at hfound <;> cases hfound

end Calls

/-! ## A guarded service -/

section Guarded

variable (tables : σ → String × String → Option TableMetadata)
  (spent : σ → String × String → String → Prop)

/-- What can become of the tables, which are given by dataset and name: a version that was not there
before has a tag that no version of the table has had. -/
structure Evolves (s s' : σ) : Prop where
  remembers : ∀ {key tag}, spent s key tag → spent s' key tag
  fresh : ∀ {key v}, tables s' key = some v →
    tables s key = some v ∨ ∃ tag, v.etag = some tag ∧ ¬ spent s key tag

/-- A service that takes an update only for the present version of a table. `tables` reads the
versions off its state, and `spent` the tags that versions of a table have had. -/
structure Guards (client : Client σ) : Prop where
  tagged : ∀ {s key v}, tables s key = some v → ∃ tag, v.etag = some tag ∧ spent s key tag
  told : ∀ {s dataset table v}, (client.tableMetadata dataset table s).1.answer = .ok v →
    tables s (dataset, table) = some v
  asked : ∀ s dataset table, tables (client.tableMetadata dataset table s).2 = tables s
  remembered : ∀ s dataset table,
    Evolves tables spent s (client.tableMetadata dataset table s).2
  updated : ∀ {s dataset table fields etag},
    (client.updateSchema dataset table fields etag s).1.answer = .ok () →
      ∃ v v', tables s (dataset, table) = some v ∧ v.etag = etag ∧
        tables (client.updateSchema dataset table fields etag s).2 =
          Function.update (tables s) (dataset, table) (some v') ∧
        v'.schema = fields ∧ v'.timePartitioning = v.timePartitioning
  notUpdated : ∀ {s dataset table fields etag e},
    (client.updateSchema dataset table fields etag s).1.answer = .error e →
      tables (client.updateSchema dataset table fields etag s).2 = tables s

end Guarded

section Histories

variable {tables : σ → String × String → Option TableMetadata}
  {spent : σ → String × String → String → Prop}

theorem Evolves.refl (s : σ) : Evolves tables spent s s :=
  ⟨id, .inl⟩

theorem Shared.evolves_overtaken {s : Shared σ}
    (h : ∀ act ∈ s.others, ∀ x, Evolves tables spent x (act x)) :
    Evolves tables spent s.state s.overtaken := by
  rcases s with ⟨state, others, calls⟩
  cases others with
  | nil => exact .refl state
  | cons act others => exact h act List.mem_cons_self state

/-- A version that still has its tag is the same. -/
theorem Guards.eq_of_etag {client : Client σ} (g : Guards tables spent client) {s s' : σ}
    {key : String × String} {v v' : TableMetadata} (hv : tables s key = some v)
    (he : Evolves tables spent s s') (hv' : tables s' key = some v') (htag : v'.etag = v.etag) :
    v' = v := by
  rcases he.fresh hv' with hsame | ⟨tag, hnew, hunspent⟩
  · exact Option.some.inj (hsame.symm.trans hv)
  · -- A tag that was never spent cannot be that of a version that was there.
    rcases g.tagged hv with ⟨tag', hold, hspent⟩
    have heq : tag = tag' := Option.some.inj (hnew.symm.trans (htag.trans hold))
    exact absurd (heq ▸ hspent) hunspent

/-! ## No update is lost -/

section NoUpdateLost

variable (tables) (key : String × String) (field : Field)

/-- A look-up left the tables as they were, and the update after it replaced the version that the
table had at that moment by one with a column more, for a field that had none. -/
structure Appended (look update : Moment σ) (current extended : TableMetadata)
    (column : FieldSchema) : Prop where
  looked : tables look.after = tables look.before
  present : tables update.before key = some current
  replaced : tables update.after = Function.update (tables update.before) key (some extended)
  schema : extended.schema = current.schema ++ [column]
  timePartitioning : extended.timePartitioning = current.timePartitioning
  stored : Config.storedField field = .ok column
  name : column.name = field.name
  new : field.name ∉ current.schema.map (·.name)
  notRequired : column.mode ≠ .required

end NoUpdateLost

section Lookups

variable {client : Client σ} {config : Config} {table : String} {state : σ} {now : Nat}
  {others : List (σ → σ)} {answer : Outcome TableMetadata} {c₁ : Clocked (Shared σ)}

/-- The first look-up of a shared client, and what it leaves. -/
theorem calls_of_look
    (h : (config.tableMetadata client.shared table).run ⟨{ state, others }, now⟩ = (answer, c₁)) :
    c₁.server.calls = [⟨.look config.dataset table, Shared.overtaken { state, others },
      (client.tableMetadata config.dataset table (Shared.overtaken { state, others })).2⟩] := by
  rw [server_tableMetadata h]
  rfl

theorem Guards.unchanged_of_look (g : Guards tables spent client)
    (h : (config.tableMetadata client.shared table).run ⟨{ state, others }, now⟩ = (answer, c₁)) :
    ∀ call ∈ c₁.server.calls, tables call.after = tables call.before := by
  intro call hcall
  rw [calls_of_look h, List.mem_singleton] at hcall
  rw [hcall]
  exact g.asked _ _ _

/-- An update that is taken extends the version that was read, whatever others did since. -/
theorem Guards.appended (g : Guards tables spent client)
    (hothers : ∀ act ∈ others, ∀ s, Evolves tables spent s (act s)) {field : Field}
    {current : TableMetadata} {column : FieldSchema} {c₂ : Clocked (Shared σ)}
    (p : Prepared config client.shared table field ⟨{ state, others }, now⟩ current column c₁)
    (hsend : (sendColumn config client.shared table current column).run c₁ = (.ok (.ok ()), c₂)) :
    ∃ look update extended, c₂.server.calls = [look, update] ∧
      Appended tables (config.dataset, table) field look update current extended column := by
  have hc₁ := server_tableMetadata p.looked
  have hanswered : (client.shared.tableMetadata config.dataset table
      { state, others }).1.answer = .ok current := answer_of_tableMetadata p.looked
  have htold : tables (Shared.overtaken { state, others }) (config.dataset, table) =
      some current := g.told hanswered
  rcases timed_eq_ok hsend with ⟨hanswer, hserver⟩
  rcases g.updated (s := c₁.server.overtaken) hanswer with
    ⟨v, extended, hv, hetag, hafter, hschema, hpartitioning⟩
  -- The version that was read is still the present one, as it still has its tag.
  have hasked : tables c₁.server.state (config.dataset, table) = some current := by
    rw [hc₁]
    exact (congrFun (g.asked _ _ _) _).trans htold
  have hrest : ∀ act ∈ c₁.server.others, ∀ s, Evolves tables spent s (act s) := by
    intro act hact
    rw [hc₁] at hact
    exact hothers act (List.mem_of_mem_tail hact)
  have hsame : v = current :=
    g.eq_of_etag hasked (Shared.evolves_overtaken hrest) hv hetag
  subst hsame
  let fields := v.schema ++ [column]
  let update : Moment σ :=
    ⟨.update config.dataset table fields v.etag, c₁.server.overtaken,
      (client.updateSchema config.dataset table fields v.etag c₁.server.overtaken).2⟩
  have hcalls : c₂.server.calls = c₁.server.calls ++ [update] := by
    rw [← hserver]
    rfl
  rw [calls_of_look p.looked] at hcalls
  exact ⟨_, update, extended, hcalls, g.asked _ _ _, hv, hafter, hschema, hpartitioning, p.stored,
    name_of_storedField p.stored, p.new, p.notRequired⟩

/-- An update that is refused changes nothing, no more than the look-up before it. -/
theorem Guards.unchanged_of_refused (g : Guards tables spent client) {field : Field}
    {current : TableMetadata} {column : FieldSchema} {c₂ : Clocked (Shared σ)} {e : ApiError}
    (p : Prepared config client.shared table field ⟨{ state, others }, now⟩ current column c₁)
    (hsend : (sendColumn config client.shared table current column).run c₁ =
      (.ok (.error e), c₂)) :
    ∀ call ∈ c₂.server.calls, tables call.after = tables call.before := by
  intro call hcall
  rcases timed_eq_ok hsend with ⟨hanswer, hserver⟩
  rw [← hserver] at hcall
  rcases List.mem_append.1 hcall with hcall | hcall
  · exact g.unchanged_of_look p.looked call hcall
  · cases List.mem_singleton.1 hcall
    exact g.notUpdated hanswer

end Lookups

/-- If a column is added, then to the fields that the table has when the update takes place. On
every failure but a late answer to the update, no call has changed a table. -/
theorem addColumn_loses_no_update {client : Client σ} (g : Guards tables spent client)
    (config : Config) (table : String) (field : Field) (state : σ) (now : Nat)
    (others : List (σ → σ)) (hothers : ∀ act ∈ others, ∀ s, Evolves tables spent s (act s)) :
    let ran := (config.addColumn client.shared table field).run ⟨{ state, others }, now⟩
    (ran.1 = .ok () →
      ∃ look update current extended column, ran.2.server.calls = [look, update] ∧
        Appended tables (config.dataset, table) field look update current extended column) ∧
    ∀ e, ran.1 = .error e → e ≠ .timeout "update schema" config.queryTimeout →
      ∀ call ∈ ran.2.server.calls, tables call.after = tables call.before := by
  intro ran
  have hadds := adds_addColumn config client.shared table field ⟨{ state, others }, now⟩
  change Adds _ _ _ _ _ ran at hadds
  generalize ran = r at hadds ⊢
  cases hadds with
  | invalid he => exact ⟨nofun, fun _ _ _ => nofun⟩
  | unread h => exact ⟨nofun, fun _ _ _ => g.unchanged_of_look h⟩
  | present h _ => exact ⟨nofun, fun _ _ _ => g.unchanged_of_look h⟩
  | notStored h _ => exact ⟨nofun, fun _ _ _ => g.unchanged_of_look h⟩
  | required h _ _ => exact ⟨nofun, fun _ _ _ => g.unchanged_of_look h⟩
  | late p hsend =>
    refine ⟨nofun, ?_⟩
    intro e' he hne
    cases he
    exact absurd (timed_eq_error hsend) hne
  | appended p hsend =>
    refine ⟨fun _ => ?_, nofun⟩
    rcases g.appended hothers p hsend with ⟨look, update, extended, hcalls, happended⟩
    exact ⟨look, update, _, extended, _, hcalls, happended⟩
  | refused p hsend => exact ⟨nofun, fun _ _ _ => g.unchanged_of_refused p hsend⟩

end Histories

/-! ## A store of versions -/

/-- Tables with the numbers of their versions. -/
structure Store where
  next : Nat := 0
  versions : String × String → Option (Nat × TableMetadata) := fun _ => none
  older : ∀ key v, versions key = some v → v.1 < next := by nofun

namespace Store

/-- The tag of a version: as many marks as there were versions before. -/
def tag (n : Nat) : String :=
  String.ofList (List.replicate n 'v')

theorem tag_injective {m n : Nat} (h : tag m = tag n) : m = n := by
  have hmarks : List.replicate m 'v' = List.replicate n 'v' := by
    simpa [tag] using congrArg String.toList h
  simpa using congrArg List.length hmarks

def tables (s : Store) (key : String × String) : Option TableMetadata :=
  (s.versions key).map fun v => { v.2 with etag := some (tag v.1) }

def spent (s : Store) (_ : String × String) (t : String) : Prop :=
  ∃ n, n < s.next ∧ t = tag n

/-- Puts a new version in the place of one. -/
def put (key : String × String) (table : TableMetadata) (s : Store) : Store where
  next := s.next + 1
  versions := Function.update s.versions key (some (s.next, table))
  older := by
    intro key' v hv
    by_cases hkey : key' = key
    · subst hkey
      rw [Function.update_self] at hv
      cases hv
      exact Nat.lt_succ_self _
    · rw [Function.update_of_ne hkey] at hv
      exact Nat.lt_succ_of_lt (s.older key' v hv)

theorem tables_put (key : String × String) (table : TableMetadata) (s : Store) :
    (s.put key table).tables =
      Function.update s.tables key (some { table with etag := some (tag s.next) }) := by
  funext key'
  by_cases hkey : key' = key
  · subst hkey
    simp [tables, put]
  · simp [tables, put, hkey]

theorem evolves_put (key : String × String) (table : TableMetadata) (s : Store) :
    Evolves tables spent s (s.put key table) where
  remembers := by
    rintro _ t ⟨n, hn, rfl⟩
    exact ⟨n, Nat.lt_succ_of_lt hn, rfl⟩
  fresh := by
    intro key' v hv
    rw [tables_put] at hv
    by_cases hkey : key' = key
    · subst hkey
      rw [Function.update_self] at hv
      cases hv
      refine .inr ⟨_, rfl, ?_⟩
      rintro ⟨n, hn, htag⟩
      exact absurd (tag_injective htag) (Nat.ne_of_gt hn)
    · rw [Function.update_of_ne hkey] at hv
      exact .inl hv

/-- A service that keeps versions and takes an update only for the present one. -/
def client : Client Store where
  createTable dataset table metadata s :=
    match s.tables (dataset, table) with
    | some _ => (⟨.error ⟨409, "duplicate", "Already Exists"⟩, 0⟩, s)
    | none => (⟨.ok (), 0⟩, s.put (dataset, table) metadata)
  tableMetadata dataset table s :=
    match s.tables (dataset, table) with
    | some v => (⟨.ok v, 0⟩, s)
    | none => (⟨.error ⟨404, "notFound", "Not found"⟩, 0⟩, s)
  updateSchema dataset table fields etag s :=
    match s.tables (dataset, table) with
    | some v =>
      if v.etag = etag then (⟨.ok (), 0⟩, s.put (dataset, table) { v with schema := fields })
      else (⟨.error ⟨412, "conditionNotMet", "etag mismatch"⟩, 0⟩, s)
    | none => (⟨.error ⟨404, "notFound", "Not found"⟩, 0⟩, s)
  query _ s := (⟨.ok (), 0⟩, s)
  insertRows _ _ _ s := (⟨.ok (), 0⟩, s)
  loadLines _ _ _ s := (⟨.ok (), 0⟩, s)

theorem look_keeps (s : Store) (dataset table : String) :
    (client.tableMetadata dataset table s).2 = s := by
  simp only [client]
  split <;> rfl

theorem guards : Guards tables spent client where
  tagged := by
    intro s key v hv
    rcases Option.map_eq_some_iff.1 hv with ⟨w, hw, rfl⟩
    exact ⟨_, rfl, w.1, s.older key w hw, rfl⟩
  told := by
    intro s dataset table v h
    simp only [client] at h
    split at h
    · rename_i hv
      cases h
      exact hv
    · cases h
  asked := by
    intro s dataset table
    rw [look_keeps]
  remembered := by
    intro s dataset table
    rw [look_keeps]
    exact .refl s
  updated := by
    intro s dataset table fields etag h
    simp only [client] at h ⊢
    cases hv : s.tables (dataset, table) with
    | none =>
      rw [hv] at h
      cases h
    | some v =>
      rw [hv] at h
      by_cases hetag : v.etag = etag
      · simp only [if_pos hetag]
        exact ⟨v, _, rfl, hetag, tables_put _ _ s, rfl, rfl⟩
      · simp only [if_neg hetag] at h
        cases h
  notUpdated := by
    intro s dataset table fields etag e h
    simp only [client] at h ⊢
    split at h
    · split at h
      · cases h
      · simp [*]
    · simp [*]

end Store

/-- Others add a column before the look-up and change another table before the update. -/
theorem addColumn_loses_no_update_store :
    let config : Config := { projectId := "p", dataset := "d" }
    let theirs : FieldSchema := ⟨"at", .timestamp, .nullable, none, []⟩
    let others : List (Store → Store) :=
      [Store.put ("d", "t") ⟨[theirs], none, none⟩, Store.put ("d", "u") ⟨[], none, none⟩]
    let ran := (config.addColumn Store.client.shared "t" (.plain "n" (.scalar .int32) true)).run
      ⟨{ state := {}, others }, 0⟩
    ran.1 = .ok () ∧
      ∃ look update current extended column, ran.2.server.calls = [look, update] ∧
        Appended Store.tables ("d", "t") (.plain "n" (.scalar .int32) true) look update current
          extended column := by
  intro config theirs others ran
  have hothers : ∀ act ∈ others, ∀ s, Evolves Store.tables Store.spent s (act s) := by
    intro act hact s
    rcases List.mem_pair.1 hact with rfl | rfl
    · exact Store.evolves_put _ _ s
    · exact Store.evolves_put _ _ s
  have hok : ran.1 = .ok () := rfl
  exact ⟨hok, (addColumn_loses_no_update Store.guards config "t" (.plain "n" (.scalar .int32) true)
    {} 0 others hothers).1 hok⟩

end BigQuery
end Ingest
