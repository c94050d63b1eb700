import Ingest.Proofs.ClickHouse.Handover
import Ingest.Proofs.ClickHouse.Wire
import Ingest.Proofs.Format.Refusals

/-!
# What a look-up tells

A look-up of a table tells its columns when a server answers it in time and the table has a column
(`Tells`). `Orders` lists how the order of columns is found for a write: from what is kept, from a
look-up that tells it, or not at all. `Writes` lists how a write ends. A write is refused for the
layout only where its list of columns did not fit, and then the list is dropped.
-/

namespace Ingest
namespace ClickHouse

open Effect

variable {σ α : Type}

/-! ## Time -/

theorem keeps_now_timed {setup : Setup} {operation : String} {call : Call σ ServerError α}
    (earlier : Nat) :
    Keeps (fun c : Session σ => earlier ≤ c.now) (Action.timed setup operation call) := by
  intro c hc
  rw [state_timed]
  exact hc.trans (Clocked.now_le_await setup.config.queryTimeoutMs call c.toClocked).1

theorem keeps_now_columnInfo {setup : Setup} {client : Client σ} {table : String}
    (earlier : Nat) :
    Keeps (fun c : Session σ => earlier ≤ c.now) (setup.columnInfo client table) :=
  Setup.keeps_columnInfo_of_timed (keeps_now_timed earlier)

/-- Time does not go back. -/
theorem preserved_now (setup : Setup) (client : Client σ) (earlier : Nat) :
    Preserved setup client fun c => earlier ≤ c.now where
  executed _ _ := keeps_now_timed earlier
  told _ := keeps_now_columnInfo earlier
  ordered _ := Setup.keeps_columnOrder_of_columnInfo (keeps_now_columnInfo earlier) fun _ _ hc => hc
  inserted _ _ _ _ := keeps_now_timed earlier
  forgotten _ := fun _ hc => hc

/-- A call is answered in time, or it is given up. -/
theorem Action.timed_cases (setup : Setup) (operation : String) (call : Call σ ServerError α)
    (c : Session σ) :
    ((call c.server).1.delay ≤ setup.config.queryTimeoutMs ∧
        ∃ c', (timed setup operation call).run c = (.ok (call c.server).1.answer, c') ∧
          c'.now = c.now + (call c.server).1.delay) ∨
      (¬ (call c.server).1.delay ≤ setup.config.queryTimeoutMs ∧
        ∃ c', (timed setup operation call).run c =
          (.error (.timeout operation setup.config.queryTimeout), c')) := by
  rw [run_timed, Clocked.await]
  by_cases h : (call c.server).1.delay ≤ setup.config.queryTimeoutMs
  · left
    simp only [if_pos h]
    exact ⟨h, _, rfl, rfl⟩
  · right
    simp only [if_neg h]
    exact ⟨h, _, rfl⟩

/-! ## Look-ups -/

/-- In a session, a look-up of a table is told columns, and the answer arrives at a time. -/
structure Tells (setup : Setup) (client : Client σ) (table : String)
    (c : Session (σ × List Request)) (infos : List ColumnInfo) (time : Nat) : Prop where
  told : (client.columns setup.config.database table c.server.1).1.answer = .ok infos
  exist : infos ≠ []
  inTime : (client.columns setup.config.database table c.server.1).1.delay ≤
    setup.config.queryTimeoutMs
  arrives : time = c.now + (client.columns setup.config.database table c.server.1).1.delay

/-- Whether a write was refused because its columns are not those of the table. -/
def Mismatched (answer : Outcome α) : Prop :=
  ∃ table reason, answer = .error (.schemaMismatch table reason)

theorem not_mismatched_ok (a : α) : ¬ Mismatched (.ok a : Outcome α) := by
  rintro ⟨t, reason, h⟩
  cases h

theorem requests_columnInfo (setup : Setup) (client : Client σ) (table : String)
    (c : Session (σ × List Request)) :
    ((setup.columnInfo client.noted table).run c).2.requests =
      c.requests ++ [.columns setup.config.database table] := by
  rw [Setup.session_columnInfo]
  exact requests_timed setup "describe table" _ _ c

/-- A look-up tells the folded columns or fails, and its failure is not one of the layout. -/
theorem columnInfo_cases (setup : Setup) (client : Client σ) (table : String)
    (c : Session (σ × List Request)) :
    (∃ infos c₁, Tells setup client table c infos c₁.now ∧
        (setup.columnInfo client.noted table).run c = (.ok (foldColumns infos), c₁)) ∨
      (∀ infos time, ¬ Tells setup client table c infos time) ∧
        ∃ e c₁, (setup.columnInfo client.noted table).run c = (.error e, c₁) ∧
          ∀ t reason, e ≠ .schemaMismatch t reason := by
  have hasked : client.noted.columns setup.config.database table c.server =
      ((client.columns setup.config.database table c.server.1).1, _) := rfl
  rcases Action.timed_cases setup "describe table"
      (client.noted.columns setup.config.database table) c with
    ⟨hdelay, c₁, hrun, hnow⟩ | ⟨hdelay, c₁, hrun⟩
  · rw [hasked] at hdelay hrun hnow
    simp only at hdelay hrun hnow
    rw [Setup.columnInfo, run_bind_of_ok hrun]
    cases hanswer : (client.columns setup.config.database table c.server.1).1.answer with
    | ok infos =>
      cases infos with
      | nil =>
        -- A table without columns does not exist.
        refine .inr ⟨fun infos time h => ?_, _, _, rfl, fun t reason h => by cases h⟩
        cases hanswer.symm.trans h.told
        exact h.exist rfl
      | cons info infos => exact .inl ⟨_, _, ⟨hanswer, List.cons_ne_nil _ _, hdelay, hnow⟩, rfl⟩
    | error e =>
      have huntold : ∀ infos time, ¬ Tells setup client table c infos time := by
        intro infos time h
        cases hanswer.symm.trans h.told
      simp only
      split
      · exact .inr ⟨huntold, _, _, rfl, fun t reason h => by cases h⟩
      · exact .inr ⟨huntold, _, _, rfl, fun t reason h => by cases h⟩
  · have hfailed : (setup.columnInfo client.noted table).run c =
        (.error (.timeout "describe table" setup.config.queryTimeout), c₁) := by
      rw [Setup.columnInfo, run_bind, hrun]
    exact .inr ⟨fun infos time h => hdelay h.inTime, _, c₁, hfailed, fun t reason h => by cases h⟩

/-! ## The order of columns -/

/-- How the order of columns is found. -/
inductive Orders (setup : Setup) (client : Client σ) (table : String)
    (c : Session (σ × List Request)) :
    Outcome (List String) → Session (σ × List Request) → Prop
  /-- It is kept, and nothing is asked. -/
  | kept {names : List String} :
      c.fresh? setup table = some names → Orders setup client table c (.ok names) c
  /-- The server tells it, and it is kept from now on. -/
  | told {infos : List ColumnInfo} {c₁ : Session (σ × List Request)} :
      Tells setup client table c infos c₁.now →
      c₁.requests = c.requests ++ [.columns setup.config.database table] →
      c₁.cache = Dict.insert c.cache table ⟨c₁.now, tableOrder infos⟩ →
      Orders setup client table c (.ok (tableOrder infos)) c₁
  /-- The server does not tell it, and what is kept stays as it was. -/
  | untold {e : Failure} {c₁ : Session (σ × List Request)} :
      (∀ infos time, ¬ Tells setup client table c infos time) →
      c₁.requests = c.requests ++ [.columns setup.config.database table] →
      c₁.cache = c.cache → (∀ t reason, e ≠ .schemaMismatch t reason) →
      Orders setup client table c (.error e) c₁

theorem orders_columnOrder (setup : Setup) (client : Client σ) (table : String)
    (c : Session (σ × List Request)) :
    Orders setup client table c ((setup.columnOrder client.noted table).run c).1
      ((setup.columnOrder client.noted table).run c).2 := by
  rw [run_columnOrder]
  cases hfresh : c.fresh? setup table with
  | some names => exact .kept hfresh
  | none =>
    have hrequests := requests_columnInfo setup client table c
    have hcache : ((setup.columnInfo client.noted table).run c).2.cache = c.cache :=
      keeps_cache_columnInfo c.cache c rfl
    rcases columnInfo_cases setup client table c with
      ⟨infos, c₁, htells, hrun⟩ | ⟨huntold, e, c₁, hrun, he⟩
    · rw [hrun] at hrequests hcache ⊢
      refine .told htells hrequests ?_
      show Dict.insert c₁.cache table _ = Dict.insert c.cache table _
      rw [hcache]
      rfl
    · rw [hrun] at hrequests hcache ⊢
      exact .untold huntold hrequests hcache he

/-! ## Rows that are refused -/

section Rows

variable {zones : Calendar.ZoneDatabase} {c : ColumnType}

theorem blamesValues_timestampFormatter (zone : Option Calendar.Zone) :
    (timestampFormatter zone).BlamesValues := by
  intro v m e h
  cases v with
  | timestamp t => cases h
  | int32 n => cases h
  | int64 n => cases h
  | string s =>
    simp only [timestampFormatter] at h
    split at h
    · cases h
    · cases h
      rfl
  | _ => exact Formatter.refuse_eq_error h

theorem blamesValues_scalarColumn {s : Scalar} (h : scalarColumn zones s = .ok c) :
    c.formatter.BlamesValues := by
  rcases formatter_scalarColumn h with ⟨zone, hformatter⟩
  exact Formatter.blamesValues_ofScalar? (blamesValues_timestampFormatter zone) hformatter

theorem blamesValues_partColumn {f : Field} {p : String × ColumnType}
    (h : partColumn zones f = .ok p) : p.2.formatter.BlamesValues := by
  unfold partColumn at h
  split at h
  · rcases Outcome.map_eq_ok h with ⟨c, hc, rfl⟩
    rcases Outcome.map_eq_ok hc with ⟨c₀, hc₀, rfl⟩
    have hplain := blamesValues_scalarColumn hc₀
    cases f.nullable with
    | false => exact hplain
    | true => exact hplain.nullAs _
  · cases h

theorem blamesValues_listColumn (element : DataType) {c : ColumnType}
    (h : listColumn zones element = .ok c) : c.formatter.BlamesValues :=
  match element with
  | .scalar s => by
    rcases Outcome.map_eq_ok h with ⟨c₀, hc₀, rfl⟩
    exact (blamesValues_scalarColumn hc₀).list
  | .list element => by
    rw [listColumn] at h
    rcases Outcome.map_eq_ok h with ⟨c₀, hc₀, rfl⟩
    exact (blamesValues_listColumn element hc₀).list
  | .struct fields => by
    rcases formatter_nestedColumn h with ⟨parts, hparts, -, hformatter⟩
    rw [hformatter]
    refine (Formatter.BlamesValues.struct fun f hf => ?_).list
    rcases List.mem_map.1 hf with ⟨p, hp, rfl⟩
    rcases Outcome.exists_of_forall₂ hparts hp with ⟨field, -, hpart⟩
    exact blamesValues_partColumn hpart

theorem blamesValues_toColumn {t : NeutralType} (h : toColumn zones t = .ok c) :
    c.formatter.BlamesValues := by
  rcases t with ⟨type, nullable, metadata⟩
  cases type with
  | struct fields => cases h
  | list element => exact blamesValues_listColumn element h
  | scalar s =>
    rcases Outcome.map_eq_ok h with ⟨c₀, hc₀, rfl⟩
    have hplain := blamesValues_scalarColumn hc₀
    cases metadata.flag Metadata.lowCardinalityKey <;> cases nullable
    · exact hplain
    · exact hplain.nullAs _
    · exact hplain
    · exact hplain.nullAs _

/-- A schema that cannot be mapped has a field of a type without a column. -/
theorem ofSchema_eq_error {s : Schema} {e : Failure}
    (h : RowFormat.ofSchema (mapper zones) s = .error e) :
    ∃ type, e = .unsupportedMapping type mapperName := by
  rcases Outcome.mapM_eq_error (Outcome.map_eq_error h) with ⟨f, -, hf⟩
  exact toColumn_eq_error (Outcome.map_eq_error hf)

/-- Rows that cannot be laid out have a value that is refused. -/
theorem blamesValue_of_batch {s : Schema} {format : RowFormat ColumnType} {columns : List String}
    {rows : List Row} {e : Failure} (hformat : RowFormat.ofSchema (mapper zones) s = .ok format)
    (h : Setup.batch format columns rows = .error e) : e.blamesValue = true := by
  rcases Outcome.mapM_eq_error h with ⟨row, -, hrow⟩
  refine RowFormat.blamesValue_of_format (fun c hc => ?_) (Outcome.map_eq_error hrow)
  rcases Outcome.exists_of_forall₂ (RowFormat.columns_of_ofSchema hformat) hc with ⟨f, -, hf⟩
  exact blamesValues_toColumn hf.type

end Rows

/-! ## Writes -/

/-- The last step of a write keeps what its call keeps. -/
theorem keeps_insertLast {setup : Setup} {client : Client σ} {table : String}
    {P : Session σ → Prop} {columns : List String} {values : List (List Value)}
    (h : ∀ operation, Keeps P (Action.timed setup operation
      (client.insert (setup.qualified table) columns values))) :
    Keeps P (insertLast setup client table columns values) := by
  refine (h _).bind fun answer => ?_
  cases answer with
  | ok u => exact Keeps.pure _
  | error e => exact Keeps.throw _

/-- How a write ends. -/
inductive Writes (setup : Setup) (client : Client σ) (table : String)
    (c : Session (σ × List Request)) : Outcome Unit → Session (σ × List Request) → Prop
  /-- It has no rows, or a field cannot be mapped. -/
  | idle {answer : Outcome Unit} : ¬ Mismatched answer → Writes setup client table c answer c
  /-- The order of columns is not found. -/
  | untold {e : Failure} {c₁ : Session (σ × List Request)} :
      Orders setup client table c (.error e) c₁ → Writes setup client table c (.error e) c₁
  /-- The columns do not fit the schema, and their list is dropped. -/
  | misfit {names : List String} {answer : Outcome Unit} {c₁ : Session (σ × List Request)} :
      Orders setup client table c (.ok names) c₁ → Mismatched answer →
      Writes setup client table c answer { c₁ with cache := Dict.erase c₁.cache table }
  /-- The columns fit. What is inserted, if the rows can be formatted, is laid out by them. -/
  | laid (insertions : List Insertion) {names : List String} {answer : Outcome Unit}
      {c₁ c' : Session (σ × List Request)} :
      Orders setup client table c (.ok names) c₁ → ¬ Mismatched answer →
      c'.requests = c₁.requests ++ insertions.map .insert →
      (∀ i ∈ insertions, i.table = setup.qualified table ∧ i.columns = names) →
      c'.cache = c₁.cache → c₁.now ≤ c'.now → Writes setup client table c answer c'

theorem writes_write (setup : Setup) (client : Client σ) (table : String) (s : Schema)
    (rows : List Row) (c : Session (σ × List Request)) :
    Writes setup client table c ((setup.write client.noted table s rows).run c).1
      ((setup.write client.noted table s rows).run c).2 := by
  by_cases hrows : rows = []
  · subst hrows
    exact .idle (not_mismatched_ok ())
  rw [run_write hrows]
  cases hformat : RowFormat.ofSchema (mapper setup.zones) s with
  | error e =>
    rcases ofSchema_eq_error hformat with ⟨type, rfl⟩
    exact .idle (by simp [Mismatched])
  | ok format =>
    have horders := orders_columnOrder setup client table c
    simp only
    rcases horder : (setup.columnOrder client.noted table).run c with ⟨e | names, c₁⟩
    · rw [horder] at horders
      exact .untold horders
    rw [horder] at horders
    simp only
    cases hfits : setup.checkLayout table s names with
    | error e =>
      rcases checkLayout_eq_error hfits with ⟨reason, rfl⟩
      exact .misfit horders ⟨_, _, rfl⟩
    | ok u =>
      simp only
      cases hvalues : Setup.batch format names rows with
      | error e =>
        have hblame := blamesValue_of_batch hformat hvalues
        have hother : ¬ Mismatched (.error e : Outcome Unit) := by
          rintro ⟨t, reason, h⟩
          cases h
          cases hblame
        exact .laid [] horders hother (List.append_nil _).symm nofun rfl
          (Nat.le_refl _)
      | ok values =>
        refine .laid [⟨setup.qualified table, names, values⟩] horders ?_
          (requests_insertLast names values c₁) (by simp)
          (keeps_insertLast (fun operation => keeps_cache_timed operation _ c₁.cache) c₁ rfl)
          (keeps_insertLast (fun operation => keeps_now_timed c₁.now) c₁ (Nat.le_refl _))
        rintro ⟨t, reason, h⟩
        exact insertLast_ne_mismatch names values c₁ t reason h

end ClickHouse
end Ingest
