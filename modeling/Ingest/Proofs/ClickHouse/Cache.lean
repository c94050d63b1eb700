import Ingest.Proofs.ClickHouse.Layout
import Ingest.Proofs.Dict

/-!
# The columns that a driver keeps

A driver keeps the list of a table's columns that a write was told, drops it when it changes the
table or finds that the list does not fit, and reads it again when it is too old. `Preserved`
collects what each step keeps, so that whole histories keep it (`Preserved.history`). As long as
nobody changes a table, what is kept of it is what was kept before or the present order
(`Steady.preserved`), and a reconciliation that changes the table leaves nothing
(`kept_reconcile`).
-/

namespace Ingest
namespace ClickHouse

open Effect

variable {σ α : Type}

/-! ## Kept lists -/

namespace Session

/-- The list of columns that is kept of a table. -/
def kept? (c : Session σ) (table : String) : Option CachedColumns :=
  Dict.get? c.cache table

/-- The columns of a table as they are kept, unless they were kept too long ago. -/
def fresh? (setup : Setup) (c : Session σ) (table : String) : Option (List String) :=
  (c.kept? table).bind fun e =>
    if c.now - e.fetchedAt < setup.config.columnsCacheTtlMs then some e.names else none

theorem kept?_erase (c : Session σ) (table other : String) :
    kept? { c with cache := Dict.erase c.cache other } table =
      if table = other then none else c.kept? table := by
  unfold kept?
  split
  · rename_i h
    rw [h, Dict.get?_erase_self]
  · rename_i h
    rw [Dict.get?_erase_of_ne h]

end Session

section Steps

variable {setup : Setup} {client : Client σ} {table : String}

theorem cache_timed (operation : String) (call : Call σ ServerError α) (c : Session σ) :
    ((Action.timed setup operation call).run c).2.cache = c.cache := by
  rw [state_timed]

theorem keeps_cache_timed (operation : String) (call : Call σ ServerError α)
    (v : List (String × CachedColumns)) :
    Keeps (fun c : Session σ => c.cache = v) (Action.timed setup operation call) :=
  fun c hc => (cache_timed operation call c).trans hc

theorem keeps_cache_columnInfo (v : List (String × CachedColumns)) :
    Keeps (fun c : Session σ => c.cache = v) (setup.columnInfo client table) :=
  Setup.keeps_columnInfo_of_timed (keeps_cache_timed _ _ v)

/-- The order of columns is the one that is kept, or the one that the server tells, which is then
kept. -/
theorem run_columnOrder (c : Session σ) :
    (setup.columnOrder client table).run c =
      match c.fresh? setup table with
      | some names => (.ok names, c)
      | none =>
        match (setup.columnInfo client table).run c with
        | (.error e, c₁) => (.error e, c₁)
        | (.ok infos, c₁) =>
          (.ok (infos.map (·.name)),
            { c₁ with cache := Dict.insert c₁.cache table ⟨c₁.now, infos.map (·.name)⟩ }) := by
  have hfetch : (Setup.columnOrder.fetch setup client table).run c =
      match (setup.columnInfo client table).run c with
      | (.error e, c₁) => (.error e, c₁)
      | (.ok infos, c₁) =>
        (.ok (infos.map (·.name)),
          { c₁ with cache := Dict.insert c₁.cache table ⟨c₁.now, infos.map (·.name)⟩ }) := by
    unfold Setup.columnOrder.fetch
    rw [run_bind]
    rcases (setup.columnInfo client table).run c with ⟨e | infos, c₁⟩ <;> rfl
  have hget : (get : Action σ (Session σ)).run c = (.ok c, c) := rfl
  unfold Setup.columnOrder
  rw [run_bind_of_ok hget, ← hfetch, Session.fresh?, Session.kept?]
  cases Dict.get? c.cache table with
  | none => rfl
  | some cached =>
    simp only [Option.bind_some]
    split <;> rfl

end Steps

/-! ## What every step keeps -/

/-- Each step of the operations of a driver keeps a property of its session. -/
structure Preserved (setup : Setup) (client : Client σ) (P : Session σ → Prop) : Prop where
  executed : ∀ operation sql, Keeps P (Action.timed setup operation (client.exec sql))
  told : ∀ table, Keeps P (setup.columnInfo client table)
  ordered : ∀ table, Keeps P (setup.columnOrder client table)
  inserted : ∀ operation table columns values,
    Keeps P (Action.timed setup operation (client.insert table columns values))
  forgotten : ∀ table, Keeps P (Action.forget table)

namespace Preserved

variable {setup : Setup} {client : Client σ} {P : Session σ → Prop}

theorem createTable (p : Preserved setup client P) (table : String) (s : Schema) :
    Keeps P (setup.createTable client table s) := by
  refine (keeps_ofOutcome P _).bind fun u => (keeps_ofOutcome P _).bind fun u => ?_
  refine (keeps_ofOutcome P _).bind fun sql => (p.executed _ sql).bind fun answer => ?_
  cases answer with
  | ok u => exact p.forgotten table
  | error e =>
    simp only
    split
    · exact Keeps.throw _
    · exact Keeps.throw _

theorem addColumn (p : Preserved setup client P) (table : String) (f : Field) :
    Keeps P (setup.addColumn client table f) := by
  refine (keeps_ofOutcome P _).bind fun u => (keeps_ofOutcome P _).bind fun u => ?_
  refine (p.told table).bind fun columns => ?_
  simp only
  split
  · exact Keeps.throw _
  refine (keeps_ofOutcome P _).bind fun sql => (p.executed _ sql).bind fun answer => ?_
  cases answer with
  | ok u => exact p.forgotten table
  | error e =>
    simp only
    split
    · exact Keeps.throw _
    · exact Keeps.throw _

theorem missingColumns (p : Preserved setup client P) (table : String) (s : Schema) :
    Keeps P (setup.missingColumns client table s) :=
  (p.told table).bind fun _ => keeps_ofOutcome P _

theorem write (p : Preserved setup client P) (table : String) (s : Schema) (rows : List Row) :
    Keeps P (setup.write client table s rows) := by
  unfold Setup.write
  split
  · exact Keeps.pure _
  refine (keeps_ofOutcome P _).bind fun format => (p.ordered table).bind fun columns => ?_
  simp only
  split
  · exact (p.forgotten table).bind fun u => Keeps.throw _
  refine (keeps_ofOutcome P _).bind fun values => (p.inserted _ _ _ _).bind fun answer => ?_
  cases answer with
  | ok u => exact Keeps.pure _
  | error e => exact Keeps.throw _

theorem reconcile (p : Preserved setup client P) (table : String) (s : Schema) (rounds : Nat) :
    Keeps P ((setup.driver client).reconcile Driver.quiet table s rounds) :=
  Driver.keeps_reconcile (p.missingColumns table s) (p.createTable table s) (p.addColumn table)
    rounds

end Preserved

/-! ## Histories -/

/-- What can happen while a driver is used. -/
inductive Act (σ : Type) where
  | createTable (table : String) (s : Schema)
  | addColumn (table : String) (f : Field)
  | missingColumns (table : String) (s : Schema)
  | write (table : String) (s : Schema) (rows : List Row)
  | reconcile (table : String) (s : Schema) (rounds : Nat)
  | pause (ms : Nat)
  /-- Others change the server. -/
  | others (change : σ → σ)

def Act.run (setup : Setup) (client : Client σ) (c : Session σ) : Act σ → Session σ
  | createTable table s => ((setup.createTable client table s).run c).2
  | addColumn table f => ((setup.addColumn client table f).run c).2
  | missingColumns table s => ((setup.missingColumns client table s).run c).2
  | write table s rows => ((setup.write client table s rows).run c).2
  | reconcile table s rounds =>
    (((setup.driver client).reconcile Driver.quiet table s rounds).run c).2
  | pause ms => { c with now := c.now + ms }
  | others change => { c with server := change c.server }

/-- The session after some acts. -/
def history (setup : Setup) (client : Client σ) (acts : List (Act σ)) (c : Session σ) : Session σ :=
  acts.foldl (Act.run setup client) c

/-- What every step, time and others keep is kept all along. -/
theorem Preserved.history {setup : Setup} {client : Client σ} {P : Session σ → Prop}
    (p : Preserved setup client P) {acts : List (Act σ)}
    (hpause : ∀ ms c, P c → P { c with now := c.now + ms })
    (hothers : ∀ change, .others change ∈ acts → ∀ c, P c → P { c with server := change c.server })
    {c : Session σ} (hc : P c) : P (history setup client acts c) := by
  induction acts generalizing c with
  | nil => exact hc
  | cons a rest ih =>
    refine ih (fun change h => hothers change (List.mem_cons_of_mem _ h)) ?_
    cases a with
    | createTable table s => exact p.createTable table s c hc
    | addColumn table f => exact p.addColumn table f c hc
    | missingColumns table s => exact p.missingColumns table s c hc
    | write table s rows => exact p.write table s rows c hc
    | reconcile table s rounds => exact p.reconcile table s rounds c hc
    | pause ms => exact hpause ms c hc
    | others change => exact hothers change List.mem_cons_self c hc

/-! ## A table that nobody changes -/

/-- The names of the columns of a table in their order. -/
def tableOrder (columns : List ColumnInfo) : List String :=
  (foldColumns columns).map (·.name)

/-- Whatever a server is asked, it goes on to tell the same columns of a table, and in time: nobody
changes the table. -/
structure Steady (setup : Setup) (client : Client σ) (table : String) (columns : List ColumnInfo)
    (P : σ → Prop) : Prop where
  exist : columns ≠ []
  told : ∀ st, P st → (client.columns setup.config.database table st).1.answer = .ok columns ∧
    (client.columns setup.config.database table st).1.delay ≤ setup.config.queryTimeoutMs
  executed : ∀ sql st, P st → P (client.exec sql st).2
  asked : ∀ database other st, P st → P (client.columns database other st).2
  inserted : ∀ other names values st, P st → P (client.insert other names values st).2

/-- What is kept of a table is what was kept before, or nothing, or the present order. -/
def Stands (P : σ → Prop) (table : String) (order : List String) (earlier : Option CachedColumns)
    (c : Session σ) : Prop :=
  P c.server ∧ (c.kept? table = earlier ∨ c.kept? table = none ∨
    ∃ e, c.kept? table = some e ∧ e.names = order)

namespace Steady

variable {setup : Setup} {client : Client σ} {table : String} {columns : List ColumnInfo}
  {P : σ → Prop}

theorem keeps_timed {earlier : Option CachedColumns} {operation : String}
    {call : Call σ ServerError α} (hcall : ∀ st, P st → P (call st).2) :
    Keeps (Stands P table (tableOrder columns) earlier) (Action.timed setup operation call) := by
  rintro c ⟨hc, hkept⟩
  refine ⟨Effect.keeps_timed hcall c hc, ?_⟩
  unfold Session.kept?
  rw [cache_timed]
  exact hkept

theorem keeps_columnInfo (h : Steady setup client table columns P)
    {earlier : Option CachedColumns} (other : String) :
    Keeps (Stands P table (tableOrder columns) earlier) (setup.columnInfo client other) :=
  Setup.keeps_columnInfo_of_timed (keeps_timed (h.asked _ other))

/-- The columns are told, and nothing is kept of that. -/
theorem run_columnInfo (h : Steady setup client table columns P) {c : Session σ}
    (hc : P c.server) :
    ∃ c', (setup.columnInfo client table).run c = (.ok (foldColumns columns), c') ∧
      P c'.server ∧ c'.cache = c.cache := by
  rcases h.told c.server hc with ⟨hanswer, hdelay⟩
  rcases Setup.run_columnInfo h.exist hanswer hdelay with ⟨c', hrun⟩
  refine ⟨c', hrun, ?_, (keeps_cache_columnInfo c.cache).of_run rfl hrun⟩
  exact (Setup.keeps_columnInfo (h.asked setup.config.database table)).of_run hc hrun

theorem keeps_columnOrder (h : Steady setup client table columns P)
    {earlier : Option CachedColumns} (other : String) :
    Keeps (Stands P table (tableOrder columns) earlier) (setup.columnOrder client other) := by
  intro c hc
  rw [run_columnOrder]
  cases c.fresh? setup other with
  | some names => exact hc
  | none =>
    rcases hlook : (setup.columnInfo client other).run c with ⟨e | infos, c₁⟩
    · exact (h.keeps_columnInfo other).of_run hc hlook
    · rcases (h.keeps_columnInfo other).of_run hc hlook with ⟨hserver, hkept⟩
      refine ⟨hserver, ?_⟩
      simp only [Session.kept?, Dict.get?_insert]
      split
      · -- What is kept now is what the server has just told.
        rename_i hother
        subst hother
        rcases h.run_columnInfo hc.1 with ⟨c₂, htold, -⟩
        cases hlook.symm.trans htold
        exact .inr (.inr ⟨_, rfl, rfl⟩)
      · exact hkept

theorem preserved (h : Steady setup client table columns P) (earlier : Option CachedColumns) :
    Preserved setup client (Stands P table (tableOrder columns) earlier) where
  executed operation sql := keeps_timed (h.executed sql)
  told := h.keeps_columnInfo
  ordered := h.keeps_columnOrder
  inserted operation other names values := keeps_timed (h.inserted other names values)
  forgotten other := by
    rintro c ⟨hc, hkept⟩
    refine ⟨hc, ?_⟩
    have herase := c.kept?_erase table other
    by_cases hother : table = other
    · rw [if_pos hother] at herase
      exact .inr (.inl herase)
    · rw [if_neg hother] at herase
      rw [← herase] at hkept
      exact hkept

end Steady

/-! ## What is dropped -/

/-- A computation that succeeds drops what is kept of a table and nothing else, and one that fails
changes nothing that is kept. -/
def Forgets (table : String) (x : Action σ α) : Prop :=
  ∀ c, match x.run c with
    | (.ok _, c') => c'.cache = Dict.erase c.cache table
    | (.error _, c') => c'.cache = c.cache

namespace Forgets

variable {β : Type} {table : String}

theorem of_ok {x : Action σ α} {a : α} {c c' : Session σ} (hx : Forgets table x)
    (h : x.run c = (.ok a, c')) : c'.cache = Dict.erase c.cache table := by
  have hforgets := hx c
  rw [h] at hforgets
  exact hforgets

theorem of_error {x : Action σ α} {e : Failure} {c c' : Session σ} (hx : Forgets table x)
    (h : x.run c = (.error e, c')) : c'.cache = c.cache := by
  have hforgets := hx c
  rw [h] at hforgets
  exact hforgets

theorem kept?_of_ok {x : Action σ α} {a : α} {c c' : Session σ} (hx : Forgets table x)
    (h : x.run c = (.ok a, c')) : c'.kept? table = none := by
  rw [Session.kept?, hx.of_ok h, Dict.get?_erase_self]

theorem throw (e : Failure) : Forgets table (throw e : Action σ α) :=
  fun _ => rfl

theorem forget : Forgets table (Action.forget table : Action σ Unit) :=
  fun _ => rfl

theorem bind {y : Action σ β} {f : β → Action σ α}
    (hy : ∀ v, Keeps (fun c : Session σ => c.cache = v) y) (hf : ∀ b, Forgets table (f b)) :
    Forgets table (y >>= f) := by
  intro c
  have hsame := hy c.cache c rfl
  rw [run_bind]
  rcases hrun : y.run c with ⟨e | b, c₁⟩
  · rw [hrun] at hsame
    exact hsame
  · rw [hrun] at hsame
    simp only
    rw [← hsame]
    exact hf b c₁

end Forgets

section Reconciling

variable {setup : Setup} {client : Client σ} {table : String}

theorem forgets_createTable (s : Schema) : Forgets table (setup.createTable client table s) := by
  refine Forgets.bind (fun _ => keeps_ofOutcome _ _) fun u => ?_
  refine Forgets.bind (fun _ => keeps_ofOutcome _ _) fun u => ?_
  refine Forgets.bind (fun _ => keeps_ofOutcome _ _) fun sql => ?_
  refine Forgets.bind (keeps_cache_timed _ _) fun answer => ?_
  cases answer with
  | ok u => exact Forgets.forget
  | error e =>
    simp only
    split
    · exact Forgets.throw _
    · exact Forgets.throw _

theorem forgets_addColumn (f : Field) : Forgets table (setup.addColumn client table f) := by
  refine Forgets.bind (fun _ => keeps_ofOutcome _ _) fun u => ?_
  refine Forgets.bind (fun _ => keeps_ofOutcome _ _) fun u => ?_
  refine Forgets.bind keeps_cache_columnInfo fun columns => ?_
  simp only
  split
  · exact Forgets.throw _
  refine Forgets.bind (fun _ => keeps_ofOutcome _ _) fun sql => ?_
  refine Forgets.bind (keeps_cache_timed _ _) fun answer => ?_
  cases answer with
  | ok u => exact Forgets.forget
  | error e =>
    simp only
    split
    · exact Forgets.throw _
    · exact Forgets.throw _

theorem keeps_cache_missingColumns (s : Schema) (v : List (String × CachedColumns)) :
    Keeps (fun c : Session σ => c.cache = v) (setup.missingColumns client table s) :=
  (keeps_cache_columnInfo v).bind fun _ => keeps_ofOutcome _ _

/-! ## What a reconciliation leaves of what was kept -/

/-- Columns that are missing are added in order, and what is kept is dropped if one was added by
this call. -/
theorem kept_addAllMissing {missing : List Field} {n : Nat} {c c' : Session σ}
    (h : ((setup.driver client).addAllMissing Driver.quiet table missing).run c = (.ok n, c')) :
    (n = 0 ∧ c'.kept? table = c.kept? table) ∨ (n ≠ 0 ∧ c'.kept? table = none) := by
  induction missing generalizing n c with
  | nil =>
    cases h
    exact .inl ⟨rfl, rfl⟩
  | cons f rest ih =>
    unfold Driver.addAllMissing at h
    rcases bind_eq_ok h with ⟨here, c₁, hhere, h⟩
    rcases bind_eq_ok h with ⟨there, c₂, hthere, h⟩
    cases h
    rcases Driver.addMissing_eq_ok hhere with ⟨rfl, hrun⟩ | ⟨rfl, t, column, hrun⟩
    · -- A column was added, and nothing is kept from then on.
      have hdropped : c₁.kept? table = none := (forgets_addColumn f).kept?_of_ok hrun
      rcases ih hthere with ⟨rfl, hsame⟩ | ⟨hthere, hnone⟩
      · exact .inr ⟨by decide, hsame.trans hdropped⟩
      · exact .inr ⟨by omega, hnone⟩
    · -- Others have added it, and what is kept may well lack it.
      have hkept : c₁.kept? table = c.kept? table :=
        congrArg (Dict.get? · table) ((forgets_addColumn f).of_error hrun)
      rw [Nat.zero_add, ← hkept]
      exact ih hthere

/-- A reconciliation that changes nothing leaves what is kept, and one that creates the table or adds
columns drops it. -/
theorem kept_reconcile {s : Schema} {rounds : Nat} {r : Reconciled} {c c' : Session σ}
    (h : ((setup.driver client).reconcile Driver.quiet table s rounds).run c = (.ok (some r), c')) :
    (r = .unchanged ∧ c'.kept? table = c.kept? table) ∨
      (r ≠ .unchanged ∧ c'.kept? table = none) := by
  -- The session is general: a round that lost the table to others is followed by another.
  induction rounds generalizing c with
  | zero => cases h
  | succ rounds ih =>
    rcases hfound : ((setup.driver client).missingColumns table s).run c with ⟨found, c₁⟩
    have hlooked : c₁.kept? table = c.kept? table := congrArg (Dict.get? · table)
      ((keeps_cache_missingColumns s c.cache).of_run rfl hfound)
    unfold Driver.reconcile at h
    rw [run_bind_of_ok (run_attempt _ c), hfound] at h
    cases found with
    | ok missing =>
      rcases bind_eq_ok h with ⟨done, c₂, hextend, h⟩
      cases h
      unfold Driver.extend at hextend
      rcases bind_eq_ok hextend with ⟨n, c₂, hadd, hextend⟩
      rw [← hlooked]
      by_cases hn : n = 0
      · rw [if_pos hn] at hextend
        cases hextend
        rcases kept_addAllMissing hadd with ⟨-, hsame⟩ | ⟨hne, -⟩
        · exact .inl ⟨rfl, hsame⟩
        · exact absurd hn hne
      · rw [if_neg hn] at hextend
        cases hextend
        rcases kept_addAllMissing hadd with ⟨hzero, -⟩ | ⟨-, hnone⟩
        · exact absurd hzero hn
        · exact .inr ⟨by simp, hnone⟩
    | error e =>
      cases e with
      | tableNotFound t =>
        rcases hcreate : ((setup.driver client).createTable table s).run c₁ with ⟨created, c₂⟩
        simp only at h
        rw [run_bind_of_ok (run_attempt _ c₁), hcreate] at h
        cases created with
        | ok u =>
          cases h
          exact .inr ⟨by simp, (forgets_createTable s).kept?_of_ok hcreate⟩
        | error e =>
          cases e with
          | tableAlreadyExists t =>
            have hrefused : c₂.cache = c₁.cache := (forgets_createTable s).of_error hcreate
            have hkept : c₂.kept? table = c.kept? table :=
              calc
                c₂.kept? table = c₁.kept? table := congrArg (Dict.get? · table) hrefused
                _ = c.kept? table := hlooked
            rw [← hkept]
            exact ih h
          | _ => cases h
      | _ => cases h

end Reconciling

end ClickHouse
end Ingest
