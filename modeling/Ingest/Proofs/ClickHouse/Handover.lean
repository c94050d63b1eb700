import Ingest.Proofs.ClickHouse.Cache

/-!
# Writing to a table that was reconciled

A reconciliation looks at the table, and a write goes by the list of columns that is kept. The two
agree unless others have changed the table since the list was read and it is still kept. Such a
list is one from before the reconciliation, which then changed nothing; it serves one more write,
in its own order, or is dropped by the first write that it does not fit
(`write_after_reconcile`).
-/

namespace Ingest
namespace ClickHouse

open Effect

variable {σ : Type}

/-! ## The layout check -/

section Layout

variable {setup : Setup} {table : String} {s : Schema} {columns : List String}

/-- The fields of a schema in any order pass the check. -/
theorem checkLayout_of_perm (h : columns.Perm s.names) :
    setup.checkLayout table s columns = .ok () := by
  have hlength : columns.length = s.fields.length := by
    rw [h.length_eq, Schema.names, List.length_map]
  have hfound : (columns.find? fun c => (s.field? c).isNone) = none := by
    refine List.find?_eq_none.2 fun c hc => ?_
    have hname : c ∈ s.names := h.mem_iff.1 hc
    simpa [Schema.field?, Schema.names] using hname
  unfold Setup.checkLayout
  simp only [hlength, ne_eq, not_true_eq_false, if_false, hfound]

theorem checkLayout_eq_error {e : Failure} (h : setup.checkLayout table s columns = .error e) :
    ∃ reason, e = .schemaMismatch (setup.qualified table) reason := by
  unfold Setup.checkLayout at h
  simp only at h
  split at h
  · cases h
    exact ⟨_, rfl⟩
  · split at h <;> cases h
    exact ⟨_, rfl⟩

end Layout

/-! ## The next write -/

/-- The same session with every request noted from now on. -/
def Session.noting (c : Session σ) : Session (σ × List Request) :=
  { server := (c.server, []), now := c.now, cache := c.cache }

section Writing

variable {setup : Setup} {client : Client σ} {table : String} {s : Schema} {rows : List Row}
  {format : RowFormat ColumnType} {columns : List ColumnInfo} {P : σ → Prop}

theorem Steady.noted (h : Steady setup client table columns P) :
    Steady setup client.noted table columns fun st => P st.1 where
  exist := h.exist
  told st := h.told st.1
  executed sql st := h.executed sql st.1
  asked database other st := h.asked database other st.1
  inserted other names values st := h.inserted other names values st.1

/-- A write inserts its rows by the columns of an order, and is not refused for the layout. -/
structure Inserts (setup : Setup) (client : Client σ) (table : String) (s : Schema)
    (rows : List Row) (order : List String) (d : Session (σ × List Request)) : Prop where
  inserted : ∃ values, ((setup.write client.noted table s rows).run d).2.insertions =
      d.insertions ++ [⟨setup.qualified table, order, values⟩] ∧
    (order.Nodup → Placed setup table s rows ⟨setup.qualified table, order, values⟩)
  accepted : ∀ t reason,
    ((setup.write client.noted table s rows).run d).1 ≠ .error (.schemaMismatch t reason)

/-- An insert is not refused for the layout. -/
theorem insertLast_ne_mismatch (names : List String) (values : List (List Value))
    (c : Session σ) (t reason : String) :
    ((insertLast setup client table names values).run c).1 ≠ .error (.schemaMismatch t reason) := by
  rcases h : (insertLast setup client table names values).run c with ⟨e | u, c'⟩
  · rcases bind_eq_error h with hcall | ⟨answer, c₁, -, hanswer⟩
    · rw [timed_eq_error hcall]
      nofun
    · cases answer with
      | ok u => cases hanswer
      | error e =>
        cases hanswer
        nofun
  · nofun

/-- Where the order of columns is known and fits the schema, the rows are inserted by it. -/
theorem inserts_of_order (hformat : RowFormat.ofSchema (mapper setup.zones) s = .ok format)
    (hrows : rows ≠ []) (hformatted : ∀ row ∈ rows, ∃ out, format.format row = .ok out)
    {order : List String} {d d₁ : Session (σ × List Request)}
    (horder : (setup.columnOrder client.noted table).run d = (.ok order, d₁))
    (hfits : setup.checkLayout table s order = .ok ()) :
    Inserts setup client table s rows order d := by
  have hlaid : ∀ row ∈ rows, ∃ values,
      (format.format row).map (Setup.layOut order) = .ok values := by
    intro row hrow
    rcases hformatted row hrow with ⟨out, hout⟩
    exact ⟨_, congrArg (Except.map _) hout⟩
  rcases Outcome.exists_forall₂ hlaid with ⟨values, hvalues⟩
  have hbatch : Setup.batch format order rows = .ok values := Outcome.mapM_eq_ok_iff.2 hvalues
  have hrun : (setup.write client.noted table s rows).run d =
      (insertLast setup client.noted table order values).run d₁ := by
    rw [run_write hrows, hformat]
    simp only [horder, hfits, hbatch]
  refine ⟨⟨values, ?_, fun hnodup => placed_batch hformat hnodup hfits hbatch⟩, fun t reason => ?_⟩
  · rw [hrun, insertions_insertLast, (keeps_columnOrder d.insertions).of_run rfl horder]
  · rw [hrun]
    exact insertLast_ne_mismatch order values d₁ t reason

/-- Where no list is kept that is young enough, the present order is known. -/
theorem run_columnOrder_of_stale (h : Steady setup client table columns P)
    {d : Session (σ × List Request)} (hd : P d.server.1) (hstale : d.fresh? setup table = none) :
    ∃ d₁, (setup.columnOrder client.noted table).run d = (.ok (tableOrder columns), d₁) := by
  rcases h.noted.run_columnInfo hd with ⟨d₁, hlook, -⟩
  rw [run_columnOrder, hstale, hlook]
  exact ⟨_, rfl⟩

theorem run_columnOrder_of_fresh {d : Session (σ × List Request)} {kept : List String}
    (hkept : d.fresh? setup table = some kept) :
    (setup.columnOrder client.noted table).run d = (.ok kept, d) := by
  rw [run_columnOrder, hkept]

/-- A list that does not fit is dropped without an insert. -/
theorem run_write_of_misfit (hformat : RowFormat.ofSchema (mapper setup.zones) s = .ok format)
    (hrows : rows ≠ []) {d : Session (σ × List Request)} {kept : List String} {e : Failure}
    (hkept : d.fresh? setup table = some kept)
    (hmisfit : setup.checkLayout table s kept = .error e) :
    (setup.write client.noted table s rows).run d =
      (.error e, { d with cache := Dict.erase d.cache table }) := by
  rw [run_write hrows, hformat]
  simp only [run_columnOrder_of_fresh hkept, hmisfit]

/-- However long a table has been left alone, what is kept of it is what was kept before, or nothing,
or the present order. -/
theorem Steady.stands_history (h : Steady setup client table columns P) {later : List (Act σ)}
    (hothers : ∀ change, .others change ∈ later → ∀ st, P st → P (change st))
    {c : Session σ} (hc : P c.server) :
    Stands P table (tableOrder columns) (c.kept? table) (history setup client later c) :=
  (h.preserved (c.kept? table)).history (fun _ _ hc => hc)
    (fun change hmem d hd => ⟨hothers change hmem d.server hd.1, hd.2⟩) ⟨hc, .inl rfl⟩

theorem young_of_fresh {d : Session σ} {kept : List String} (h : d.fresh? setup table = some kept) :
    ∃ e, d.kept? table = some e ∧ e.names = kept ∧
      d.now - e.fetchedAt < setup.config.columnsCacheTtlMs := by
  rcases Option.bind_eq_some_iff.1 h with ⟨e, he, h⟩
  split at h
  · rename_i hyoung
    exact ⟨e, he, Option.some.inj h, hyoung⟩
  · cases h

theorem kept_of_fresh {d : Session σ} {kept : List String} (h : d.fresh? setup table = some kept) :
    ∃ e, d.kept? table = some e ∧ e.names = kept := by
  rcases young_of_fresh h with ⟨e, he, hnames, -⟩
  exact ⟨e, he, hnames⟩

/-- Of a table that nobody has changed since it was reconciled, a list that is not the present one
was kept before the reconciliation, which found nothing to change. -/
theorem kept_before_of_ne_present {rounds : Nat} {r : Reconciled} {start c d : Session σ}
    (hreconcile : ((setup.driver client).reconcile Driver.quiet table s rounds).run start =
      (.ok (some r), c))
    (hstands : Stands P table (tableOrder columns) (c.kept? table) d) {e : CachedColumns}
    (he : d.kept? table = some e) (hne : e.names ≠ tableOrder columns) :
    r = .unchanged ∧ d.kept? table = start.kept? table := by
  rcases hstands.2 with hsame | hnone | ⟨e', he', horder⟩
  · rcases kept_reconcile hreconcile with ⟨hr, hbefore⟩ | ⟨-, hdropped⟩
    · refine ⟨hr, ?_⟩
      calc
        d.kept? table = c.kept? table := hsame
        _ = start.kept? table := hbefore
    · cases he.symm.trans (hsame.trans hdropped)
  · cases he.symm.trans hnone
  · cases he.symm.trans he'
    exact absurd horder hne

/-- After a reconciliation that succeeded, and as long as nobody changes the table, a list that is
still kept and is not the present one was kept before, and the reconciliation changed nothing.
Without such a list the next write inserts its rows by the present order. With one it inserts them by
that list; if the list does not fit, it is refused without an insert, and the same write inserts
its rows by the present order when it is made again. -/
theorem write_after_reconcile (setup : Setup) (client : Client σ) (table : String) (s : Schema)
    (columns : List ColumnInfo) (P : σ → Prop) (h : Steady setup client table columns P)
    (hnames : (tableOrder columns).Perm s.names)
    (format : RowFormat ColumnType) (hformat : RowFormat.ofSchema (mapper setup.zones) s = .ok format)
    (rows : List Row) (hrows : rows ≠ [])
    (hformatted : ∀ row ∈ rows, ∃ out, format.format row = .ok out)
    (before later : List (Act σ)) (start : Clocked σ) (rounds : Nat) (r : Reconciled)
    (c : Session σ)
    (hreconcile : ((setup.driver client).reconcile Driver.quiet table s rounds).run
      (history setup client before ⟨start, []⟩) = (.ok (some r), c))
    (hc : P c.server)
    (hothers : ∀ change, .others change ∈ later → ∀ st, P st → P (change st)) :
    let d := (history setup client later c).noting
    (∀ kept, d.fresh? setup table = some kept → kept ≠ tableOrder columns →
      r = .unchanged ∧
        d.kept? table = (history setup client before ⟨start, []⟩).kept? table) ∧
    (d.fresh? setup table = none → Inserts setup client table s rows (tableOrder columns) d) ∧
    ∀ kept, d.fresh? setup table = some kept →
      (setup.checkLayout table s kept = .ok () → Inserts setup client table s rows kept d) ∧
      (kept = tableOrder columns → setup.checkLayout table s kept = .ok ()) ∧
      ∀ e, setup.checkLayout table s kept = .error e →
        (∃ reason, e = .schemaMismatch (setup.qualified table) reason) ∧
          ∃ d', (setup.write client.noted table s rows).run d = (.error e, d') ∧
            d'.insertions = d.insertions ∧
              Inserts setup client table s rows (tableOrder columns) d' := by
  intro d
  have hstands := h.stands_history hothers hc
  have hd : P d.server.1 := hstands.1
  have hpresent : setup.checkLayout table s (tableOrder columns) = .ok () :=
    checkLayout_of_perm hnames
  have hfresh : ∀ d' : Session (σ × List Request), P d'.server.1 →
      d'.fresh? setup table = none →
        Inserts setup client table s rows (tableOrder columns) d' := by
    intro d' hd' hstale
    rcases run_columnOrder_of_stale h hd' hstale with ⟨d₁, horder⟩
    exact inserts_of_order hformat hrows hformatted horder hpresent
  refine ⟨fun kept hkept hne => ?_, hfresh d hd, fun kept hkept => ⟨fun hfits => ?_, ?_, ?_⟩⟩
  · rcases kept_of_fresh hkept with ⟨e, he, rfl⟩
    exact kept_before_of_ne_present hreconcile hstands he hne
  · exact inserts_of_order hformat hrows hformatted (run_columnOrder_of_fresh hkept) hfits
  · rintro rfl
    exact hpresent
  · -- The refusal drops the list, so that the same write finds none when it is made again.
    intro e hmisfit
    refine ⟨checkLayout_eq_error hmisfit, _, run_write_of_misfit hformat hrows hkept hmisfit, rfl, ?_⟩
    refine hfresh _ hd ?_
    rw [Session.fresh?, Session.kept?_erase, if_pos rfl]
    rfl

end Writing

/-! ## A table that others extend -/

namespace Extended

def setup : Setup := ⟨{ database := "d" }, fun _ => none⟩

/-- The schema of a required number. -/
def number : Schema :=
  ⟨[.plain "id" (.scalar .int64) false], by decide⟩

/-- The columns of the table after others have added the name. -/
def columns : List ColumnInfo := [⟨"id", "Int64", ""⟩, ⟨"name", "String", "DEFAULT"⟩]

def row : Row := [("id", .int64 7)]

/-- A number is written, and then others add a column. -/
def before : List (Act (List ColumnInfo)) :=
  [.write "t" number [row], .others fun _ => columns]

/-- The table has one column at first. -/
def start : Clocked (List ColumnInfo) := ⟨[⟨"id", "Int64", ""⟩], 0⟩

def reconciled : Outcome (Option Reconciled) × Session (List ColumnInfo) :=
  ((setup.driver described).reconcile Driver.quiet "t" person 1).run
    (history setup described before ⟨start, []⟩)

/-- When the list that is kept has become too old, the next write goes by the present order. -/
theorem write_after_reconcile_later :
    let d := (history setup described [.pause 60000] reconciled.2).noting
    reconciled.1 = .ok (some .unchanged) ∧
      Inserts setup described "t" person [row] ["id", "name"] d := by
  intro d
  have hresult : reconciled.1 = .ok (some .unchanged) := by decide +kernel
  have hsteady : Steady setup described "t" columns (· = columns) := {
    exist := List.cons_ne_nil _ _
    told := by
      rintro _ rfl
      exact ⟨rfl, Nat.zero_le _⟩
    executed := fun _ _ hst => hst
    asked := fun _ _ _ hst => hst
    inserted := fun _ _ _ _ hst => hst }
  have hformat : RowFormat.ofSchema (mapper setup.zones) person = .ok _ := rfl
  have hstale : d.fresh? setup "t" = none := by decide +kernel
  have horder : tableOrder columns = ["id", "name"] := by decide +kernel
  have hothers : ∀ change, Act.others change ∈ [Act.pause 60000] →
      ∀ st : List ColumnInfo, st = columns → change st = columns := by
    intro change hmem
    cases List.mem_singleton.1 hmem
  rcases write_after_reconcile setup described "t" person columns (· = columns) hsteady
    (by decide +kernel) _ hformat [row] (List.cons_ne_nil _ _)
    (List.forall_mem_singleton.2 ⟨_, rfl⟩) before [.pause 60000] start 1 .unchanged reconciled.2
    (Prod.ext hresult rfl) (by decide +kernel) hothers with ⟨-, hwrite, -⟩
  rw [← horder]
  exact ⟨hresult, hwrite hstale⟩

/-- The list from the first write is still kept, and the next write is refused for it. -/
theorem write_refused_after_reconcile :
    reconciled.1 = .ok (some .unchanged) ∧
      (tableOrder reconciled.2.server).Perm person.names ∧
      ((setup.write described "t" person [row]).run reconciled.2).1 =
        .error (.schemaMismatch "d.t" "table has 1 columns, schema has 2") := by
  decide +kernel

end Extended

end ClickHouse
end Ingest
