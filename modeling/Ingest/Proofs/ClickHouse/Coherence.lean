import Ingest.Proofs.ClickHouse.Lookup
import Ingest.Proofs.Driver.Caller
import Ingest.Proofs.Driver.Notes

/-!
# The columns that writes go by

A driver is used operation by operation, while time passes and others change the server (`Used`).
Whatever list of columns it keeps of a table stems from a look-up that it made, and no operation
since then has changed the table or found that the list does not fit (`Stems`). Every operation
keeps this up (`Accountable`), so that a write goes by such a list, young enough, or by what it is
told itself (`column_cache_coherent`).
-/

namespace Ingest

/-- The table that an operation is about. -/
def Driver.Operation.table : Driver.Operation → String
  | createTable table _ => table
  | addColumn table _ => table
  | missingColumns table _ => table
  | write table _ _ => table

namespace ClickHouse

open Effect

variable {σ : Type}

/-! ## Operations that were performed -/

/-- An operation that was performed, with the sessions before and after it. -/
structure Performed (σ : Type) extends Driver.Exchange where
  before : Session (σ × List Request)
  after : Session (σ × List Request)

def Request.isLookup : Request → Bool
  | columns _ _ => true
  | _ => false

namespace Performed

/-- An operation as a driver performs it. -/
def ofDriver (setup : Setup) (client : Client σ) (o : Driver.Operation)
    (c : Session (σ × List Request)) : Performed σ :=
  let done := o.perform (setup.driver client.noted) c
  ⟨⟨o, done.1⟩, c, done.2⟩

/-- The requests that an operation made. -/
def requests (p : Performed σ) : List Request :=
  p.after.requests.drop p.before.requests.length

/-- The inserts that an operation made. -/
def insertions (p : Performed σ) : List Insertion :=
  p.requests.filterMap Request.insertion?

/-- The first request of an operation is a look-up of a table. -/
def LooksUp (setup : Setup) (table : String) (p : Performed σ) : Prop :=
  p.requests.head? = some (.columns setup.config.database table)

/-- An operation looks up a table and is told its columns at a time. -/
structure Learns (setup : Setup) (client : Client σ) (table : String) (infos : List ColumnInfo)
    (time : Nat) (p : Performed σ) : Prop where
  looksUp : p.LooksUp setup table
  told : Tells setup client table p.before infos time

/-- An operation changes a table, or finds that the columns of a table do not fit. -/
def Upsets (table : String) (p : Performed σ) : Prop :=
  match p.toExchange with
  | ⟨.createTable t _, answer⟩ => t = table ∧ answer = .ok ()
  | ⟨.addColumn t _, answer⟩ => t = table ∧ answer = .ok ()
  | ⟨.missingColumns _ _, _⟩ => False
  | ⟨.write t _ _, answer⟩ => t = table ∧ Mismatched answer

theorem requests_eq {p : Performed σ} {rs : List Request}
    (h : p.after.requests = p.before.requests ++ rs) : p.requests = rs := by
  rw [requests, h, List.drop_left]

end Performed

/-! ## What is asked -/

section Asking

variable {setup : Setup} {client : Client σ} {table : String}

/-- The requests about a table: none of them is a look-up, or only the first one is, of the
table. -/
inductive Asks (setup : Setup) (table : String) : List Request → Prop
  | nothing {rs : List Request} : (∀ r ∈ rs, r.isLookup = false) → Asks setup table rs
  | first {rs : List Request} : (∀ r ∈ rs, r.isLookup = false) →
      Asks setup table (.columns setup.config.database table :: rs)

theorem Asks.tail {rs : List Request} (h : Asks setup table rs) :
    ∀ r ∈ rs.tail, r.isLookup = false := by
  cases h with
  | nothing hrs => exact fun r hr => hrs r (List.mem_of_mem_tail hr)
  | first hrs => exact hrs

theorem Asks.table_eq {rs : List Request} {other : String} (h : Asks setup table rs)
    (hlook : rs.head? = some (.columns setup.config.database other)) : other = table := by
  cases h with
  | nothing hrs => cases hrs _ (List.mem_of_mem_head? hlook)
  | first hrs =>
    cases hlook
    rfl

/-- A computation asks for no columns. -/
abbrev AsksNothing {α : Type} (x : Action (σ × List Request) α) : Prop :=
  Notes Session.requests (Only fun r => r.isLookup = false) x

/-- A statement and what follows from its answer ask for no columns. -/
theorem asksNothing_exec_bind {operation sql : String}
    {f : Except ServerError Unit → Action (σ × List Request) Unit}
    (hf : ∀ answer, AsksNothing (f answer)) :
    AsksNothing (Action.timed setup operation (client.noted.exec sql) >>= f) := by
  have hcall : AsksNothing (Action.timed setup operation (client.noted.exec sql)) :=
    fun c => ⟨[.exec sql], requests_timed setup operation _ _ c,
      fun r hr => by rw [List.mem_singleton.1 hr]; rfl⟩
  exact Only.bind hcall hf

theorem asksNothing_forget : AsksNothing (Action.forget table : Action (σ × List Request) Unit) :=
  fun _ => ⟨[], (List.append_nil _).symm, nofun⟩

/-- A creation asks for no columns. -/
theorem asksNothing_createTable (setup : Setup) (client : Client σ) (table : String) (s : Schema) :
    AsksNothing (setup.createTable client.noted table s) := by
  refine Notes.ofOutcome_bind (fun _ => nofun) fun u => ?_
  refine Notes.ofOutcome_bind (fun _ => nofun) fun u => ?_
  refine Notes.ofOutcome_bind (fun _ => nofun) fun sql => asksNothing_exec_bind fun answer => ?_
  cases answer with
  | ok u => exact asksNothing_forget
  | error e =>
    simp only
    split
    · exact Only.throw _
    · exact Only.throw _

theorem notes_columnInfo : Notes Session.requests
    (fun rs _ => rs = [.columns setup.config.database table])
    (setup.columnInfo client.noted table) :=
  fun c => ⟨_, requests_columnInfo setup client table c, rfl⟩

/-- After a look-up nothing else is looked up. -/
theorem notes_first {α : Type} {x : Action (σ × List Request) α}
    (hx : AsksNothing x) :
    Notes Session.requests
      (fun rs _ => Asks setup table ([.columns setup.config.database table] ++ rs)) x :=
  hx.mono .first

theorem notes_addColumn (setup : Setup) (client : Client σ) (table : String) (f : Field) :
    Notes Session.requests (fun rs _ => Asks setup table rs)
      (setup.addColumn client.noted table f) := by
  refine Notes.ofOutcome_bind (fun _ => .nothing nofun) fun u => ?_
  refine Notes.ofOutcome_bind (fun _ => .nothing nofun) fun u => ?_
  refine notes_columnInfo.bind ?_ ?_
  · rintro _ e rfl
    exact .first nofun
  rintro _ columns rfl
  -- From here on only the statement is left to be asked.
  refine notes_first ?_
  simp only
  split
  · exact Only.throw _
  refine Notes.ofOutcome_bind (fun _ => nofun) fun sql => asksNothing_exec_bind fun answer => ?_
  cases answer with
  | ok u => exact asksNothing_forget
  | error e =>
    simp only
    split
    · exact Only.throw _
    · exact Only.throw _

theorem notes_missingColumns (setup : Setup) (client : Client σ) (table : String) (s : Schema) :
    Notes Session.requests (fun rs _ => Asks setup table rs)
      (setup.missingColumns client.noted table s) := by
  refine notes_columnInfo.bind ?_ ?_
  · rintro _ e rfl
    exact .first nofun
  · rintro _ columns rfl c
    exact ⟨[], (List.append_nil _).symm, .first nofun⟩

/-- A column is added only if the columns of the table are told. -/
theorem tells_of_addColumn {f : Field} {c c' : Session (σ × List Request)}
    (h : (setup.addColumn client.noted table f).run c = (.ok (), c')) :
    ∃ infos time, Tells setup client table c infos time := by
  unfold Setup.addColumn at h
  rcases bind_eq_ok_of_run (run_ofOutcome _) h with ⟨u, -, h⟩
  rcases bind_eq_ok_of_run (run_ofOutcome _) h with ⟨u', -, h⟩
  rcases bind_eq_ok h with ⟨columns, c₁, hlook, -⟩
  rcases columnInfo_cases setup client table c with ⟨infos, c₂, htells, -⟩ | ⟨-, e, c₂, hrun, -⟩
  · exact ⟨infos, _, htells⟩
  · cases hlook.symm.trans hrun

/-! ## What a write goes by -/

variable {c c₁ c' : Session (σ × List Request)} {answer : Outcome Unit}

/-- A list that is kept after the order was found was kept before, or it is the one that was
told. -/
theorem Orders.kept_cases {names : List String} {other : String} {e : CachedColumns}
    (h : Orders setup client table c (.ok names) c₁) (hkept : c₁.kept? other = some e) :
    c.kept? other = some e ∨ other = table ∧ e.fetchedAt = c₁.now ∧
      (∃ infos, Tells setup client table c infos e.fetchedAt ∧ e.names = tableOrder infos) ∧
        c₁.requests = c.requests ++ [.columns setup.config.database table] := by
  cases h with
  | kept _ => exact .inl hkept
  | @told infos _ htells hrequests hcache =>
    rw [Session.kept?, hcache, Dict.get?_insert] at hkept
    split at hkept
    · rename_i hother
      cases hkept
      exact .inr ⟨hother, rfl, ⟨infos, htells, rfl⟩, hrequests⟩
    · exact .inl hkept

/-- The order is found among what is kept, without a request, or it is told. -/
theorem Orders.names_cases {names : List String} (h : Orders setup client table c (.ok names) c₁) :
    (c.fresh? setup table = some names ∧ c₁ = c) ∨
      (∃ infos, Tells setup client table c infos c₁.now ∧ names = tableOrder infos) ∧
        c₁.requests = c.requests ++ [.columns setup.config.database table] := by
  cases h with
  | kept hfresh => exact .inl ⟨hfresh, rfl⟩
  | @told infos _ htells hrequests _ => exact .inr ⟨⟨infos, htells, rfl⟩, hrequests⟩

/-- An insert is laid out by the columns that are kept of its table, or by those that are told when
they are asked for. -/
def LaidOut (setup : Setup) (client : Client σ) (table : String) (c : Session (σ × List Request))
    (asked : List Request) (i : Insertion) : Prop :=
  i.table = setup.qualified table ∧ (c.fresh? setup table = some i.columns ∨
    asked = [.columns setup.config.database table] ∧
      ∃ infos time, Tells setup client table c infos time ∧ i.columns = tableOrder infos)

theorem Writes.requests (h : Writes setup client table c answer c') :
    ∃ (asked : List Request) (insertions : List Insertion),
      c'.requests = c.requests ++ (asked ++ insertions.map .insert) ∧
        (asked = [] ∨ asked = [.columns setup.config.database table]) ∧
          ∀ i ∈ insertions, LaidOut setup client table c asked i := by
  cases h with
  | idle _ => exact ⟨[], [], (List.append_nil _).symm, .inl rfl, nofun⟩
  | untold horders =>
    cases horders with
    | untold _ hrequests _ _ => exact ⟨_, [], hrequests, .inr rfl, nofun⟩
  | misfit horders _ =>
    rcases horders.names_cases with ⟨-, rfl⟩ | ⟨-, hrequests⟩
    · exact ⟨[], [], (List.append_nil _).symm, .inl rfl, nofun⟩
    · exact ⟨[_], [], hrequests, .inr rfl, nofun⟩
  | laid insertions horders _ hinserts hlaid _ _ =>
    rcases horders.names_cases with ⟨hfresh, rfl⟩ | ⟨⟨infos, htells, rfl⟩, hrequests⟩
    · refine ⟨[], insertions, hinserts, .inl rfl, fun i hi => ⟨(hlaid i hi).1, .inl ?_⟩⟩
      rw [(hlaid i hi).2, hfresh]
    · refine ⟨_, insertions, ?_, .inr rfl, fun i hi => ⟨(hlaid i hi).1, .inr ⟨rfl, ?_⟩⟩⟩
      · rw [hinserts, hrequests, List.append_assoc]
      · exact ⟨infos, _, htells, (hlaid i hi).2⟩

/-- A list that is kept after a write was kept before, or the write was told it, and the write
did not find that it does not fit. -/
theorem Writes.kept_cases {other : String} {e : CachedColumns}
    (h : Writes setup client table c answer c') (hkept : c'.kept? other = some e) :
    ¬ (table = other ∧ Mismatched answer) ∧ (c.kept? other = some e ∨
      other = table ∧ e.fetchedAt ≤ c'.now ∧
        (∃ infos, Tells setup client table c infos e.fetchedAt ∧ e.names = tableOrder infos) ∧
          ∃ rest, c'.requests = c.requests ++ .columns setup.config.database table :: rest) := by
  cases h with
  | idle hfits => exact ⟨fun hmisfit => hfits hmisfit.2, .inl hkept⟩
  | untold horders =>
    cases horders with
    | untold _ _ hcache he =>
      refine ⟨?_, .inl ?_⟩
      · rintro ⟨-, t, reason, hanswer⟩
        exact he t reason (Except.error.inj hanswer)
      · rwa [Session.kept?, hcache] at hkept
  | misfit horders _ =>
    -- The list of this table is dropped.
    rw [Session.kept?_erase] at hkept
    split at hkept
    · cases hkept
    rename_i hother
    refine ⟨fun hmisfit => hother hmisfit.1.symm, .inl ?_⟩
    exact (horders.kept_cases hkept).resolve_right fun htold => hother htold.1
  | laid insertions horders hfits hinserts _ hcache hlater =>
    refine ⟨fun hmisfit => hfits hmisfit.2, ?_⟩
    rw [Session.kept?, hcache] at hkept
    rcases horders.kept_cases hkept with hbefore | ⟨hother, htime, htold, hrequests⟩
    · exact .inl hbefore
    · refine .inr ⟨hother, htime.trans_le hlater, htold, insertions.map .insert, ?_⟩
      rw [hinserts, hrequests, List.append_assoc]
      rfl

/-- A write that looks up the columns and is not told them changes nothing that is kept. -/
theorem Writes.cache_of_untold {rest : List Request} (h : Writes setup client table c answer c')
    (hlook : c'.requests = c.requests ++ .columns setup.config.database table :: rest)
    (huntold : ∀ infos time, ¬ Tells setup client table c infos time) : c'.cache = c.cache := by
  cases h with
  | idle _ => rfl
  | untold horders =>
    cases horders with
    | untold _ _ hcache _ => exact hcache
  | misfit horders _ =>
    rcases horders.names_cases with ⟨-, rfl⟩ | ⟨⟨infos, htells, -⟩, -⟩
    · cases List.append_cancel_left ((List.append_nil _).trans hlook)
    · exact absurd htells (huntold _ _)
  | laid insertions horders _ hinserts _ _ _ =>
    rcases horders.names_cases with ⟨-, rfl⟩ | ⟨⟨infos, htells, -⟩, -⟩
    · have hfirst : Request.columns setup.config.database table ∈ insertions.map .insert :=
        List.append_cancel_left (hinserts.symm.trans hlook) ▸ List.mem_cons_self
      rcases List.mem_map.1 hfirst with ⟨i, -, hi⟩
      cases hi
    · exact absurd htells (huntold _ _)

end Asking

/-! ## What an operation leaves -/

section Leaving

variable {setup : Setup} {client : Client σ}

/-- What is kept after an operation was kept before, or the operation looked it up; a look-up that
fails changes nothing that is kept. -/
structure Accountable (setup : Setup) (client : Client σ) (p : Performed σ) : Prop where
  later : p.before.now ≤ p.after.now
  asks : Asks setup p.operation.table p.requests
  kept : ∀ {table e}, p.after.kept? table = some e → ¬ p.Upsets table ∧
    (p.before.kept? table = some e ∨ e.fetchedAt ≤ p.after.now ∧
      ∃ infos, p.Learns setup client table infos e.fetchedAt ∧ e.names = tableOrder infos)
  failed : p.LooksUp setup p.operation.table →
    (∀ infos time, ¬ Tells setup client p.operation.table p.before infos time) →
      p.after.cache = p.before.cache

/-- An operation that drops the list of a table when it succeeds keeps no list of it then. -/
theorem kept_of_forgets {τ : Type} {table other : String} {x : Action τ Unit}
    (hx : Forgets table x) {c : Session τ} {e : CachedColumns}
    (hkept : (x.run c).2.kept? other = some e) :
    ¬ (table = other ∧ (x.run c).1 = .ok ()) ∧ c.kept? other = some e := by
  rcases hrun : x.run c with ⟨e' | u, c'⟩
  · rw [hrun, Session.kept?, hx.of_error hrun] at hkept
    exact ⟨fun h => (by cases h.2), hkept⟩
  · rw [hrun, Session.kept?, hx.of_ok hrun] at hkept
    -- What is kept is of another table than the one whose list was dropped.
    by_cases hother : other = table
    · rw [hother, Dict.get?_erase_self] at hkept
      cases hkept
    · rw [Dict.get?_erase_of_ne hother] at hkept
      exact ⟨fun h => hother h.1.symm, hkept⟩

theorem accountable_createTable (table : String) (s : Schema) (c : Session (σ × List Request)) :
    Accountable setup client (.ofDriver setup client (.createTable table s) c) := by
  rcases asksNothing_createTable setup client table s c with
    ⟨rs, hrequests, hrs⟩
  have hasked : (Performed.ofDriver setup client (.createTable table s) c).requests = rs :=
    Performed.requests_eq hrequests
  refine ⟨?_, ?_, fun hkept => ?_, fun hlook => ?_⟩
  · exact (preserved_now setup client.noted c.now).createTable table s c (Nat.le_refl _)
  · rw [hasked]
    exact .nothing hrs
  · exact (kept_of_forgets (forgets_createTable s) hkept).imp_right .inl
  · -- There is no look-up that could fail.
    rw [Performed.LooksUp, hasked] at hlook
    cases hrs _ (List.mem_of_mem_head? hlook)

theorem accountable_addColumn (table : String) (f : Field) (c : Session (σ × List Request)) :
    Accountable setup client (.ofDriver setup client (.addColumn table f) c) := by
  refine ⟨?_, ?_, fun hkept => ?_, fun _ huntold => ?_⟩
  · exact (preserved_now setup client.noted c.now).addColumn table f c (Nat.le_refl _)
  · rcases notes_addColumn setup client table f c with
      ⟨rs, hrequests, hrs⟩
    rw [Performed.requests_eq hrequests]
    exact hrs
  · exact (kept_of_forgets (forgets_addColumn f) hkept).imp_right .inl
  · rcases hrun : (setup.addColumn client.noted table f).run c with ⟨e | u, c'⟩
    · exact (congrArg (fun done => done.2.cache) hrun).trans
        ((forgets_addColumn f).of_error hrun)
    · -- It does not succeed without the columns.
      rcases tells_of_addColumn hrun with ⟨infos, time, htells⟩
      exact absurd htells (huntold infos time)

theorem accountable_missingColumns (table : String) (s : Schema)
    (c : Session (σ × List Request)) :
    Accountable setup client (.ofDriver setup client (.missingColumns table s) c) := by
  have hcache : ((setup.missingColumns client.noted table s).run c).2.cache = c.cache :=
    keeps_cache_missingColumns s c.cache c rfl
  refine ⟨?_, ?_, fun hkept => ⟨id, .inl ?_⟩, fun _ _ => hcache⟩
  · exact (preserved_now setup client.noted c.now).missingColumns table s c (Nat.le_refl _)
  · rcases notes_missingColumns setup client table s c with
      ⟨rs, hrequests, hrs⟩
    rw [Performed.requests_eq hrequests]
    exact hrs
  · exact (congrArg (Dict.get? · _) hcache).symm.trans hkept

theorem accountable_write (table : String) (s : Schema) (rows : List Row)
    (c : Session (σ × List Request)) :
    Accountable setup client (.ofDriver setup client (.write table s rows) c) := by
  have hwrites := writes_write setup client table s rows c
  rcases hwrites.requests with ⟨asked, insertions, hrequests, hasked, -⟩
  have hmade : (Performed.ofDriver setup client (.write table s rows) c).requests =
      asked ++ insertions.map .insert := Performed.requests_eq hrequests
  have hinserts : ∀ r ∈ insertions.map Request.insert, r.isLookup = false := by
    intro r hr
    rcases List.mem_map.1 hr with ⟨i, -, rfl⟩
    rfl
  refine ⟨?_, ?_, fun {other e} hkept => ?_, fun hlook huntold => ?_⟩
  · exact (preserved_now setup client.noted c.now).write table s rows c (Nat.le_refl _)
  · rw [hmade]
    rcases hasked with rfl | rfl
    · exact .nothing hinserts
    · exact .first hinserts
  · rcases hwrites.kept_cases hkept with
      ⟨hfits, hbefore | ⟨hother, htime, ⟨infos, htells, hnames⟩, rest, htold⟩⟩
    · exact ⟨hfits, .inl hbefore⟩
    · subst hother
      refine ⟨hfits, .inr ⟨htime, infos, ⟨?_, htells⟩, hnames⟩⟩
      rw [Performed.LooksUp, Performed.requests_eq htold, List.head?_cons]
  · rcases hasked with rfl | rfl
    · -- All requests are inserts, so the first one is no look-up.
      rw [Performed.LooksUp, hmade] at hlook
      cases hinserts _ (List.mem_of_mem_head? hlook)
    · exact hwrites.cache_of_untold hrequests huntold

/-- Each insert of a write is laid out by what is kept, or by what the write is told. -/
theorem insertions_of_write {table : String} {s : Schema} {rows : List Row}
    {c : Session (σ × List Request)} {i : Insertion}
    (hi : i ∈ (Performed.ofDriver setup client (.write table s rows) c).insertions) :
    i.table = setup.qualified table ∧ (c.fresh? setup table = some i.columns ∨
      ∃ infos time, (Performed.ofDriver setup client (.write table s rows) c).Learns setup client
        table infos time ∧ i.columns = tableOrder infos) := by
  rcases (writes_write setup client table s rows c).requests with
    ⟨asked, insertions, hrequests, hasked, hlaid⟩
  have hmade : (Performed.ofDriver setup client (.write table s rows) c).requests =
      asked ++ insertions.map .insert := Performed.requests_eq hrequests
  have hmem : i ∈ insertions := by
    rw [Performed.insertions, hmade, List.mem_filterMap] at hi
    rcases hi with ⟨r, hr, hinsert⟩
    rcases List.mem_append.1 hr with hr | hr
    · -- A look-up is no insert.
      rcases hasked with rfl | rfl
      · cases hr
      · cases List.mem_singleton.1 hr
        cases hinsert
    · rcases List.mem_map.1 hr with ⟨j, hj, rfl⟩
      cases hinsert
      exact hj
  refine ⟨(hlaid i hmem).1, (hlaid i hmem).2.imp_right ?_⟩
  rintro ⟨rfl, infos, time, htells, hcolumns⟩
  refine ⟨infos, time, ⟨?_, htells⟩, hcolumns⟩
  rw [Performed.LooksUp, hmade]
  rfl

theorem accountable_ofDriver (setup : Setup) (client : Client σ) (o : Driver.Operation)
    (c : Session (σ × List Request)) : Accountable setup client (.ofDriver setup client o c) := by
  cases o with
  | createTable table s => exact accountable_createTable table s c
  | addColumn table f => exact accountable_addColumn table f c
  | missingColumns table s => exact accountable_missingColumns table s c
  | write table s rows => exact accountable_write table s rows c

end Leaving

/-! ## A driver in use -/

section Using

variable {setup : Setup} {client : Client σ}

/-- A driver is used from when it is made: the operations that were performed, and the session
after them. -/
inductive Used (setup : Setup) (client : Client σ) :
    List (Performed σ) → Session (σ × List Request) → Prop
  /-- A driver that is made keeps nothing. -/
  | made (server : σ) (now : Nat) : Used setup client [] ⟨⟨(server, []), now⟩, []⟩
  /-- Time passes, and others change the server. -/
  | idle {past : List (Performed σ)} {c : Session (σ × List Request)} (ms : Nat)
      (change : σ → σ) : Used setup client past c →
      Used setup client past
        { c with server := (change c.server.1, c.server.2), now := c.now + ms }
  | performed {past : List (Performed σ)} {c : Session (σ × List Request)}
      (o : Driver.Operation) : Used setup client past c →
      Used setup client (past ++ [.ofDriver setup client o c])
        (Performed.ofDriver setup client o c).after

/-- Names of columns were told at a time in answer to a look-up of a table, and no operation from
then on has changed the table or found that its columns do not fit. -/
def Stems (setup : Setup) (client : Client σ) (past : List (Performed σ)) (table : String)
    (names : List String) (time : Nat) : Prop :=
  ∃ earlier p since infos, past = earlier ++ p :: since ∧
    p.Learns setup client table infos time ∧ names = tableOrder infos ∧
      ∀ x ∈ p :: since, ¬ x.Upsets table

theorem Stems.performed {past : List (Performed σ)} {p : Performed σ} {table : String}
    {names : List String} {time : Nat} (h : Stems setup client past table names time)
    (hp : ¬ p.Upsets table) : Stems setup client (past ++ [p]) table names time := by
  rcases h with ⟨earlier, s, since, infos, rfl, hlearns, hnames, hsince⟩
  refine ⟨earlier, s, since ++ [p], infos, ?_, hlearns, hnames, ?_⟩
  · rw [List.append_assoc]
    rfl
  · rw [← List.cons_append]
    exact List.forall_mem_append.2 ⟨hsince, List.forall_mem_singleton.2 hp⟩

/-- Every list that is kept stems from a look-up. -/
theorem Used.stems {past : List (Performed σ)} {c : Session (σ × List Request)}
    (h : Used setup client past c) {table : String} {e : CachedColumns}
    (hkept : c.kept? table = some e) :
    Stems setup client past table e.names e.fetchedAt ∧ e.fetchedAt ≤ c.now := by
  -- Each operation accounts for what is kept after it, by what was kept before or by its look-up.
  induction h with
  | made server now => cases hkept
  | idle ms change _ ih =>
    rcases ih hkept with ⟨hstems, htime⟩
    exact ⟨hstems, htime.trans (Nat.le_add_right _ ms)⟩
  | @performed past c o _ ih =>
    have haccount := accountable_ofDriver setup client o c
    rcases haccount.kept hkept with ⟨hp, hbefore | ⟨htime, infos, hlearns, hnames⟩⟩
    · rcases ih hbefore with ⟨hstems, htime⟩
      exact ⟨hstems.performed hp, htime.trans haccount.later⟩
    · -- The operation itself has looked up the table.
      refine ⟨⟨past, _, [], infos, rfl, hlearns, hnames, ?_⟩, htime⟩
      exact List.forall_mem_singleton.2 hp

/-- What an operation goes by after the operations of the past. -/
structure Coherent (setup : Setup) (client : Client σ) (past : List (Performed σ))
    (w : Performed σ) : Prop where
  /-- Only the first request is a look-up, if any is. -/
  once : ∀ r ∈ w.requests.tail, r.isLookup = false
  /-- A write inserts by the columns that it is told, or by those that were told before, less than
  the time ago that they are kept for. -/
  laidOut : ∀ table s rows, w.operation = .write table s rows → ∀ i ∈ w.insertions,
    i.table = setup.qualified table ∧
      ((∃ infos time, w.Learns setup client table infos time ∧ i.columns = tableOrder infos) ∨
        ∃ time, Stems setup client past table i.columns time ∧ time ≤ w.before.now ∧
          w.before.now < time + setup.config.columnsCacheTtlMs)
  /-- A look-up that fails changes nothing that is kept. -/
  failed : ∀ table, w.LooksUp setup table →
    (∀ infos time, ¬ Tells setup client table w.before infos time) →
      w.after.cache = w.before.cache

/-- However a driver is used, each of its operations asks for columns at most once and keeps what
it kept if it is not told them, and each insert is laid out by the columns of its table as the
driver was told them: in the same write, or before by less than the time that they are kept for,
and with no change of the table and no misfit since. -/
theorem column_cache_coherent {past : List (Performed σ)} {c : Session (σ × List Request)}
    (h : Used setup client past c) (o : Driver.Operation) :
    Coherent setup client past (.ofDriver setup client o c) := by
  have haccount := accountable_ofDriver setup client o c
  refine ⟨haccount.asks.tail, ?_, fun table hlook huntold => ?_⟩
  · rintro table s rows rfl i hi
    rcases insertions_of_write hi with ⟨htable, hfresh | hlearns⟩
    · -- The list was kept before the write, and it stems from an earlier look-up.
      rcases young_of_fresh hfresh with ⟨e, hkept, hnames, hyoung⟩
      rcases h.stems hkept with ⟨hstems, htime⟩
      have hlater : c.now < e.fetchedAt + setup.config.columnsCacheTtlMs := by omega
      exact ⟨htable, .inr ⟨e.fetchedAt, hnames ▸ hstems, htime, hlater⟩⟩
    · exact ⟨htable, .inl hlearns⟩
  · have htable := haccount.asks.table_eq hlook
    subst htable
    exact haccount.failed hlook huntold

/-- Ten milliseconds after a first write, a second one asks for nothing and goes by the columns that
the first one was told. -/
theorem second_write_goes_by_first :
    let setup : Setup := ⟨{ database := "d" }, fun _ => none⟩
    let columns : List ColumnInfo := [⟨"name", "String", "DEFAULT"⟩, ⟨"id", "Int64", ""⟩]
    let write : Driver.Operation := .write "t" person [[("id", .int64 7)]]
    ∃ first c, Used setup described [first] c ∧ c.now = 10 ∧
      first = .ofDriver setup described write ⟨⟨(columns, []), 0⟩, []⟩ ∧
      (Performed.ofDriver setup described write c).requests =
        [.insert ⟨"d.t", ["name", "id"], [[.string "", .int64 7]]⟩] ∧
      Coherent setup described [first] (.ofDriver setup described write c) ∧
      ∃ time, Stems setup described [first] "t" ["name", "id"] time ∧
        10 < time + setup.config.columnsCacheTtlMs := by
  intro setup columns write
  have hused : Used setup described _ _ :=
    .idle 10 id (.performed write (.made columns 0))
  have hcoherent := column_cache_coherent hused write
  refine ⟨_, _, hused, rfl, rfl, rfl, hcoherent, ?_⟩
  rcases (hcoherent.laidOut "t" person _ rfl _ List.mem_cons_self).2 with
    ⟨infos, time, hlearns, -⟩ | ⟨time, hstems, -, hyoung⟩
  · -- The second write makes no look-up.
    cases hlearns.looksUp
  · exact ⟨time, hstems, hyoung⟩

end Using

end ClickHouse
end Ingest
