import Ingest.Proofs.BigQuery.Convergence
import Ingest.Proofs.BigQuery.Sharing
import Ingest.Proofs.Driver.Notes

/-!
# The expiration of partitions

A table is created, looked up until it is visible, and then given its partition expiration. A
creation that ends before is not taken up again: whoever reconciles the table later finds it
and sends no statement. `expiration_set_iff` follows this through the attempts to reconcile a
table.
-/

namespace Ingest
namespace BigQuery

open Effect

variable {σ α : Type}

/-! ## The statement -/

/-- What becomes of a text between backticks: a backtick in it is doubled. -/
inductive Doubled : List Char → List Char → Prop
  | nil : Doubled [] []
  | backtick {cs ds : List Char} : Doubled cs ds → Doubled ('\x60' :: cs) ('\x60' :: '\x60' :: ds)
  | other {c : Char} {cs ds : List Char} : c ≠ '\x60' → Doubled cs ds → Doubled (c :: cs) (c :: ds)

/-- A name as it stands in a statement. -/
inductive Backticked (name : String) : String → Prop
  | intro {cs : List Char} : Doubled name.toList cs →
      Backticked name ("`" ++ String.ofList cs ++ "`")

/-- How many days a statement says; zero stands for no end. -/
inductive DaysText : Nat → String → Prop
  | never : DaysText 0 "NULL"
  | after {days : Nat} : 0 < days → DaysText days (toString days)

/-- The statement after which the partitions of a table expire in a number of days. -/
inductive SetsExpiration (dataset table : String) (days : Nat) : String → Prop
  | intro {d t n : String} : Backticked dataset d → Backticked table t → DaysText days n →
      SetsExpiration dataset table days
        ("ALTER TABLE " ++ d ++ "." ++ t ++ " SET OPTIONS (partition_expiration_days = " ++ n ++ ")")

theorem doubled_iff {cs ds : List Char} :
    Doubled cs ds ↔ ds = cs.flatMap fun c => if c == '\x60' then [c, c] else [c] := by
  constructor
  · intro h
    induction h with
    | nil => rfl
    | backtick _ ih => simp [ih]
    | other hc _ ih => simp [hc, ih]
  · rintro rfl
    induction cs with
    | nil => exact .nil
    | cons c cs ih =>
      by_cases hc : c = '\x60'
      · subst hc
        exact .backtick ih
      · simpa [hc] using Doubled.other hc ih

theorem backticked_iff {name text : String} :
    Backticked name text ↔ text = Identifier.backticked name := by
  have htext : "`" ++ String.ofList (name.toList.flatMap fun c =>
      if c == '\x60' then [c, c] else [c]) ++ "`" = Identifier.backticked name := by
    apply String.toList_injective
    simp [Identifier.backticked]
  constructor
  · rintro ⟨h⟩
    rw [doubled_iff.1 h, htext]
  · rintro rfl
    rw [← htext]
    exact .intro (doubled_iff.2 rfl)

theorem daysText_iff {days : Nat} {text : String} :
    DaysText days text ↔ text = if days = 0 then "NULL" else Text.natText days := by
  constructor
  · intro h
    cases h with
    | never => rfl
    | after hdays => rw [if_neg (Nat.ne_of_gt hdays), Text.natText_eq_toString]
  · rintro rfl
    rcases Nat.eq_zero_or_pos days with rfl | hdays
    · exact .never
    · rw [if_neg (Nat.ne_of_gt hdays), Text.natText_eq_toString]
      exact .after hdays

theorem setsExpiration_iff {dataset table sql : String} {days : Nat} :
    SetsExpiration dataset table days sql ↔ sql = expirationStatement dataset table days := by
  constructor
  · rintro ⟨hd, ht, hn⟩
    cases backticked_iff.1 hd
    cases backticked_iff.1 ht
    cases daysText_iff.1 hn
    rfl
  · rintro rfl
    exact .intro (backticked_iff.2 rfl) (backticked_iff.2 rfl) (daysText_iff.2 rfl)

instance (dataset table sql : String) (days : Nat) :
    Decidable (SetsExpiration dataset table days sql) :=
  decidable_of_iff _ setsExpiration_iff.symm

/-! ## Requests and their answers -/

/-- A request with whether it was granted and how long the answer took. -/
structure Noted where
  request : Request
  granted : Bool
  delay : Nat

/-- A call that is noted with its answer, whether or not it arrives in time. -/
def noting (r : Request) (call : Call σ ApiError α) : Call (σ × List Noted) ApiError α :=
  fun s =>
    let answered := call s.1
    (answered.1, answered.2, s.2 ++ [⟨r, answered.1.answer.isOk, answered.1.delay⟩])

/-- The same client with every request noted. -/
def Client.noted (client : Client σ) : Client (σ × List Noted) where
  createTable dataset table metadata :=
    noting (.create dataset table metadata) (client.createTable dataset table metadata)
  tableMetadata dataset table := noting (.look dataset table) (client.tableMetadata dataset table)
  updateSchema dataset table fields etag :=
    noting (.update dataset table fields etag) (client.updateSchema dataset table fields etag)
  query sql := noting (.query sql) (client.query sql)
  insertRows dataset table rows :=
    noting (.insert dataset table rows) (client.insertRows dataset table rows)
  loadLines dataset table text :=
    noting (.load dataset table text) (client.loadLines dataset table text)

/-- What was noted so far. -/
def notesOf (c : Clocked (σ × List Noted)) : List Noted :=
  c.server.2

namespace Action

/-- A call is noted, and what arrives in time is its answer. -/
theorem notes_timed (config : Config) (operation : String) (r : Request)
    (call : Call σ ApiError α) :
    Notes notesOf
      (fun xs o => ∃ reply : Reply ApiError α, xs = [⟨r, reply.answer.isOk, reply.delay⟩] ∧
        (reply.delay ≤ config.queryTimeoutMs ∧ o = .ok reply.answer ∨
          config.queryTimeoutMs < reply.delay ∧
            o = .error (.timeout operation config.queryTimeout)))
      (timed config operation (noting r call)) := by
  intro c
  refine ⟨_, congrArg Prod.snd (server_timed _ _ (noting r call) c),
    (call c.server.1).1, rfl, ?_⟩
  rcases Nat.lt_or_ge config.queryTimeoutMs (noting r call c.server).1.delay with hlate | hdelay
  · rw [run_timed_of_lt hlate]
    exact .inr ⟨hlate, rfl⟩
  · rw [run_timed_of_le hdelay]
    exact .inl ⟨hdelay, rfl⟩

end Action

/-! ## What is noted of a table -/

section Noting

variable (config : Config) (table : String) (p : Partitioning)

def Request.isCreation : Request → Bool
  | .create dataset name _ => dataset == config.dataset && name == table
  | _ => false

/-- Whether a request is the statement for the partition expiration of the table. -/
def Request.isExpiration : Request → Bool
  | .query sql => decide (SetsExpiration config.dataset table p.expirationDays sql)
  | _ => false

theorem Request.isExpiration_statement : isExpiration config table p
    (.query (expirationStatement config.dataset table p.expirationDays)) = true := by
  rw [isExpiration, decide_eq_true_iff]
  exact setsExpiration_iff.2 rfl

/-- The service created the table. -/
def Noted.Creates (n : Noted) : Prop :=
  n.granted = true ∧ n.request.isCreation config table = true
  deriving Decidable

/-- The service set the partition expiration of the table. -/
def Noted.Expires (n : Noted) : Prop :=
  n.granted = true ∧ n.request.isExpiration config table p = true
  deriving Decidable

/-- The answer came after the driver had given up. -/
def Noted.Late (n : Noted) : Prop :=
  config.queryTimeoutMs < n.delay

/-- Neither a creation of the table nor its expiration. -/
def Noted.Idle (n : Noted) : Prop :=
  ¬ n.Creates config table ∧ ¬ n.Expires config table p

theorem Noted.Creates.not_expires {config : Config} {table : String} {p : Partitioning} {n : Noted}
    (h : n.Creates config table) : ¬ n.Expires config table p := by
  rcases n with ⟨request, granted, delay⟩
  rcases h with ⟨-, hcreate⟩
  rintro ⟨-, hquery⟩
  cases request with
  | create => cases hquery
  | _ => cases hcreate

/-- What is noted of a creation, and how it ends. Whatever comes to pass after the table was created,
only the statement at the very end sets the expiration. -/
inductive Creation : List Noted → Outcome Unit → Prop
  /-- The table was not created. -/
  | without {xs : List Noted} {e : Failure} :
      (∀ x ∈ xs, x.Idle config table p) → Creation xs (.error e)
  /-- The answer was late, the table did not become visible, or the statement was refused. -/
  | brokenOff {create : Noted} {xs : List Noted} {e : Failure} :
      create.Creates config table → (∀ x ∈ xs, x.Idle config table p) →
        (∀ t, e ≠ .tableAlreadyExists t) → Creation (create :: xs) (.error e)
  /-- The statement was answered after the driver had given up. -/
  | late {create alter : Noted} {xs : List Noted} {e : Failure} :
      create.Creates config table → (∀ x ∈ xs, x.Idle config table p) →
        alter.Expires config table p → alter.Late config → (∀ t, e ≠ .tableAlreadyExists t) →
          Creation (create :: xs ++ [alter]) (.error e)
  | complete {create alter : Noted} {xs : List Noted} :
      create.Creates config table → (∀ x ∈ xs, x.Idle config table p) →
        alter.Expires config table p → ¬ alter.Late config →
          Creation (create :: xs ++ [alter]) (.ok ())

end Noting

section Operations

variable {config : Config} {table : String} {p : Partitioning} {client : Client σ}

theorem idle_look (dataset name : String) (granted : Bool) (delay : Nat) :
    Noted.Idle config table p ⟨.look dataset name, granted, delay⟩ := by
  constructor
  · rintro ⟨-, ⟨⟩⟩
  · rintro ⟨-, ⟨⟩⟩

theorem idle_update (dataset name : String) (fields : List FieldSchema) (etag : Option String)
    (granted : Bool) (delay : Nat) :
    Noted.Idle config table p ⟨.update dataset name fields etag, granted, delay⟩ := by
  constructor
  · rintro ⟨-, ⟨⟩⟩
  · rintro ⟨-, ⟨⟩⟩

theorem idle_of_refused {n : Noted} (h : n.granted = false) : n.Idle config table p := by
  have hnot : n.granted ≠ true := by rw [h]; exact Bool.false_ne_true
  exact ⟨fun hn => hnot hn.1, fun hn => hnot hn.1⟩

theorem only_tableMetadata :
    Notes notesOf (Only (Noted.Idle config table p)) (config.tableMetadata client.noted table) := by
  have hcall : Notes notesOf (Only (Noted.Idle config table p))
      (Action.timed config "table metadata"
        (client.noted.tableMetadata config.dataset table)) := by
    refine (Action.notes_timed config _ _ _).mono ?_
    rintro xs o ⟨reply, rfl, -⟩
    exact List.forall_mem_singleton.2 (idle_look ..)
  refine Only.bind hcall fun answer => ?_
  cases answer with
  | ok t => exact Only.pure t
  | error e =>
    simp only
    split
    · exact Only.throw _
    · exact Only.throw _

theorem only_missingColumns (s : Schema) :
    Notes notesOf (Only (Noted.Idle config table p))
      (config.missingColumns client.noted table s) :=
  Only.bind only_tableMetadata fun _ => Only.ofOutcome _

theorem only_addColumn (f : Field) :
    Notes notesOf (Only (Noted.Idle config table p)) (config.addColumn client.noted table f) := by
  refine Only.bind (Only.ofOutcome _) fun u => Only.bind only_tableMetadata fun current => ?_
  simp only
  split
  · exact Only.throw _
  refine Only.bind (Only.ofOutcome _) fun column => ?_
  split
  · exact Only.throw _
  have hcall : Notes notesOf (Only (Noted.Idle config table p))
      (Action.timed config "update schema" (client.noted.updateSchema config.dataset table
        (current.schema ++ [column]) current.etag)) := by
    refine (Action.notes_timed config _ _ _).mono ?_
    rintro xs o ⟨reply, rfl, -⟩
    exact List.forall_mem_singleton.2 (idle_update ..)
  refine Only.bind hcall fun answer => ?_
  cases answer with
  | ok u => exact Only.pure u
  | error e =>
    simp only
    split
    · exact Only.throw _
    · exact Only.throw _

/-- While a new table is waited for, it is only looked up. -/
theorem notes_waitUntilVisible :
    Notes notesOf (fun xs o => (∀ x ∈ xs, x.Idle config table p) ∧
      ∀ t, o ≠ .error (.tableAlreadyExists t)) (config.waitUntilVisible client.noted table) := by
  intro c
  -- What one look leaves true of the notes holds after however many looks the wait takes.
  have hlook : ∀ st : σ × List Noted,
      (∃ xs, st.2 = notesOf c ++ xs ∧ ∀ x ∈ xs, x.Idle config table p) →
      ∃ xs, (client.noted.tableMetadata config.dataset table st).2.2 = notesOf c ++ xs ∧
        ∀ x ∈ xs, x.Idle config table p := by
    rintro ⟨st, _⟩ ⟨xs, rfl, hidle⟩
    let reply := (client.tableMetadata config.dataset table st).1
    refine ⟨xs ++ [⟨.look config.dataset table, reply.answer.isOk, reply.delay⟩], ?_, ?_⟩
    · rw [← List.append_assoc]
      rfl
    · exact List.forall_mem_append.2 ⟨hidle, List.forall_mem_singleton.2 (idle_look ..)⟩
  have hwait := awaitVisible_keeps hlook config.queryTimeoutMs
    (c.now + config.tableCreationTimeoutMs) (c.now + lookInterval)
    ⟨[], (List.append_nil (notesOf c)).symm, nofun⟩
  unfold Config.waitUntilVisible
  simp only [ExceptT.run_mk]
  split <;>
  · rename_i h
    rw [h] at hwait
    rcases hwait with ⟨xs, hxs, hidle⟩
    exact ⟨xs, hxs, hidle, nofun⟩

/-- The statement is the only request, and it succeeds exactly if it is granted in time. -/
theorem notes_setExpiration :
    Notes notesOf (fun xs o => ∃ alter : Noted, xs = [alter] ∧ ¬ alter.Creates config table ∧
      (o = .ok () ∧ alter.Expires config table p ∧ ¬ alter.Late config ∨
        ∃ e, o = .error e ∧ (∀ t, e ≠ .tableAlreadyExists t) ∧
          (alter.Expires config table p → alter.Late config)))
      (config.setExpiration client.noted table p) := by
  refine (Action.notes_timed config "set partition expiration"
    (.query (expirationStatement config.dataset table p.expirationDays)) _).bind ?_ ?_
  · rintro xs e ⟨reply, rfl, ⟨-, ⟨⟩⟩ | ⟨hlate, ⟨⟩⟩⟩
    refine ⟨_, rfl, ?_, .inr ⟨_, rfl, nofun, fun _ => hlate⟩⟩
    rintro ⟨-, ⟨⟩⟩
  · rintro xs _ ⟨⟨answer, delay⟩, rfl, ⟨hdelay, ⟨⟩⟩ | ⟨-, ⟨⟩⟩⟩
    have hnot : ¬ Noted.Creates config table ⟨.query (expirationStatement config.dataset table
        p.expirationDays), answer.isOk, delay⟩ := by
      rintro ⟨-, ⟨⟩⟩
    cases answer with
    | ok u =>
      have hset : Noted.Expires config table p ⟨.query (expirationStatement config.dataset table
          p.expirationDays), true, delay⟩ := ⟨rfl, Request.isExpiration_statement ..⟩
      exact Notes.pure ⟨_, rfl, hnot, .inl ⟨rfl, hset, Nat.not_lt.2 hdelay⟩⟩
    | error e =>
      refine Notes.throw ⟨_, rfl, hnot, .inr ⟨_, rfl, nofun, ?_⟩⟩
      rintro ⟨⟨⟩, -⟩

/-- What is noted of a creation by a driver that partitions its tables. -/
theorem notes_createTable (hp : config.partitioning = some p) (s : Schema) :
    Notes notesOf (Creation config table p) (config.createTable client.noted table s) := by
  unfold Config.createTable
  have hcreation : ∀ metadata,
      (Request.create config.dataset table metadata).isCreation config table = true := by
    simp [Request.isCreation]
  have hnone : ∀ e, Creation config table p [] (.error e) :=
    fun e => .without (List.forall_mem_nil _)
  refine Notes.ofOutcome_bind hnone fun u => ?_
  refine Notes.ofOutcome_bind hnone fun metadata => ?_
  refine (Action.notes_timed config "create table" (.create config.dataset table metadata) _).bind
    ?_ ?_
  · rintro xs e ⟨⟨answer, delay⟩, rfl, ⟨-, ⟨⟩⟩ | ⟨-, ⟨⟩⟩⟩
    -- An answer that comes too late still says whether there is a table now.
    cases answer with
    | ok u => exact .brokenOff ⟨rfl, hcreation metadata⟩ (List.forall_mem_nil _) nofun
    | error e => exact .without (List.forall_mem_singleton.2 (idle_of_refused rfl))
  · rintro xs _ ⟨⟨answer, delay⟩, rfl, ⟨-, ⟨⟩⟩ | ⟨-, ⟨⟩⟩⟩
    cases answer with
    | error e =>
      have hidle : ∀ x ∈ [(⟨.create config.dataset table metadata, false, delay⟩ : Noted)],
          x.Idle config table p := List.forall_mem_singleton.2 (idle_of_refused rfl)
      simp only
      split
      · exact Notes.throw (.without hidle)
      · exact Notes.throw (.without hidle)
    | ok u =>
      have hcreates : Noted.Creates config table
          ⟨.create config.dataset table metadata, true, delay⟩ := ⟨rfl, hcreation metadata⟩
      refine (notes_waitUntilVisible (p := p)).bind ?_ ?_
      · rintro xs e ⟨hxs, htaken⟩
        exact .brokenOff hcreates hxs fun t h => htaken t (h ▸ rfl)
      · rintro xs v ⟨hxs, -⟩
        rw [hp]
        refine notes_setExpiration.mono ?_
        rintro _ o ⟨alter, rfl, hnot, ⟨rfl, hexpires, hlate⟩ | ⟨e, rfl, htaken, hlate⟩⟩
        · exact .complete hcreates hxs hexpires hlate
        · -- The driver gave up, which says nothing about whether the statement was granted.
          by_cases hexpires : alter.Expires config table p
          · exact .late hcreates hxs hexpires (hlate hexpires) htaken
          · have hidle : ∀ x ∈ xs ++ [alter], x.Idle config table p :=
              List.forall_mem_append.2 ⟨hxs, List.forall_mem_singleton.2 ⟨hnot, hexpires⟩⟩
            exact .brokenOff hcreates hidle htaken

/-- What is noted of a reconciliation, and how it ends. -/
theorem notes_reconcile (hp : config.partitioning = some p) (s : Schema) (rounds : Nat) :
    Notes notesOf (Reconciling (Noted.Idle config table p) (Creation config table p))
      ((config.driver client.noted).reconcile Driver.quiet table s rounds) := by
  refine Effect.notes_reconcile (only_missingColumns s) only_addColumn (notes_createTable hp s) ?_
    rounds
  intro xs t h
  cases h with
  | without hxs => exact hxs
  | brokenOff _ _ htaken => exact absurd rfl (htaken t)
  | late _ _ _ _ htaken => exact absurd rfl (htaken t)

end Operations

/-! ## Attempts -/

/-- A call of a caller who reconciles a table: what it asks for, and what others do and how much time
passes before. -/
structure Trial (σ : Type) where
  schema : Schema
  rounds : Nat
  others : σ → σ := id
  pause : Nat := 0

/-- How a call to reconcile a table ended, and what was noted of it. -/
structure Attempt where
  result : Outcome (Option Reconciled)
  notes : List Noted

/-- The attempts of a caller to reconcile a table, one after the other. -/
def attempts (config : Config) (client : Client σ) (table : String) :
    List (Trial σ) → Clocked σ → List Attempt
  | [], _ => []
  | t :: rest, c =>
    let ended := ((config.driver client.noted).reconcile Driver.quiet table t.schema t.rounds).run
      ⟨(t.others c.server, []), c.now + t.pause⟩
    ⟨ended.1, ended.2.server.2⟩ ::
      attempts config client table rest ⟨ended.2.server.1, ended.2.now⟩

section Attempts

variable {config : Config} {table : String} {p : Partitioning} {client : Client σ}

theorem reconciling_of_mem (hp : config.partitioning = some p) {trials : List (Trial σ)}
    {c : Clocked σ} {a : Attempt} (ha : a ∈ attempts config client table trials c) :
    Reconciling (Noted.Idle config table p) (Creation config table p) a.notes a.result := by
  induction trials generalizing c with
  | nil => cases ha
  | cons t rest ih =>
    rcases List.mem_cons.1 ha with rfl | ha
    · have hcall : Notes notesOf (Reconciling (Noted.Idle config table p) (Creation config table p))
          ((config.driver client.noted).reconcile Driver.quiet table t.schema t.rounds) :=
        notes_reconcile hp t.schema t.rounds
      rcases hcall ⟨(t.others c.server, []), c.now + t.pause⟩ with ⟨xs, hnotes, hxs⟩
      have hlog : notesOf _ = xs := hnotes
      rw [← hlog] at hxs
      exact hxs
    · exact ih ha

end Attempts

namespace Attempt

variable (config : Config) (table : String) (p : Partitioning)

/-- The attempt created the table. -/
def Creates (a : Attempt) : Prop :=
  ∃ n ∈ a.notes, n.Creates config table
  deriving Decidable

/-- The attempt set the partition expiration. -/
def Expires (a : Attempt) : Prop :=
  ∃ n ∈ a.notes, n.Expires config table p
  deriving Decidable

/-- The attempt set the partition expiration, but did not learn of it in time. -/
def ExpiresLate (a : Attempt) : Prop :=
  ∃ n ∈ a.notes, n.Expires config table p ∧ n.Late config

variable {config table p} {a : Attempt}

theorem ExpiresLate.expires (h : a.ExpiresLate config table p) : a.Expires config table p := by
  rcases h with ⟨n, hn, hexpires, -⟩
  exact ⟨n, hn, hexpires⟩

theorem not_of_idle (h : ∀ n ∈ a.notes, n.Idle config table p) :
    ¬ a.Creates config table ∧ ¬ a.Expires config table p := by
  constructor
  · rintro ⟨n, hn, hcreates⟩
    exact (h n hn).1 hcreates
  · rintro ⟨n, hn, hexpires⟩
    exact (h n hn).2 hexpires

/-- An attempt leaves the table to others, or it creates it and ends in one of three ways. -/
theorem cases_of_reconciling
    (h : Reconciling (Noted.Idle config table p) (Creation config table p) a.notes a.result) :
    (¬ a.Creates config table ∧ ¬ a.Expires config table p ∧ a.result ≠ .ok (some .created)) ∨
    (a.Creates config table ∧ ¬ a.Expires config table p ∧ ∃ e, a.result = .error e) ∨
    (a.Creates config table ∧ a.ExpiresLate config table p ∧ ∃ e, a.result = .error e) ∨
    (a.Creates config table ∧ a.Expires config table p ∧ a.result = .ok (some .created)) := by
  rcases a with ⟨result, notes⟩
  cases h with
  | idle hidle hresult =>
    rcases not_of_idle (a := ⟨result, notes⟩) hidle with ⟨hcreates, hexpires⟩
    exact .inl ⟨hcreates, hexpires, hresult⟩
  | @creating xs ys o hidle hcreation =>
    cases hcreation with
    | without hys =>
      have hall := List.forall_mem_append.2 ⟨hidle, hys⟩
      rcases not_of_idle (a := ⟨_, xs ++ ys⟩) hall with ⟨hcreates, hexpires⟩
      exact .inl ⟨hcreates, hexpires, nofun⟩
    | @brokenOff create ys e hcreate hys =>
      have hmem : create ∈ xs ++ create :: ys :=
        List.mem_append_right _ List.mem_cons_self
      refine .inr (.inl ⟨⟨create, hmem, hcreate⟩, ?_, e, rfl⟩)
      rintro ⟨n, hn, hexpires⟩
      rcases List.mem_append.1 hn with hn | hn
      · exact (hidle n hn).2 hexpires
      · rcases List.mem_cons.1 hn with rfl | hn
        · exact hcreate.not_expires hexpires
        · exact (hys n hn).2 hexpires
    | @late create alter ys e hcreate _ hexpires hlate =>
      have hmem : create ∈ xs ++ (create :: ys ++ [alter]) :=
        List.mem_append_right _ List.mem_cons_self
      have hlast : alter ∈ xs ++ (create :: ys ++ [alter]) :=
        List.mem_append_right _ (List.mem_append_right _ List.mem_cons_self)
      exact .inr (.inr (.inl ⟨⟨create, hmem, hcreate⟩, ⟨alter, hlast, hexpires, hlate⟩, e, rfl⟩))
    | @complete create alter ys hcreate _ hexpires =>
      have hmem : create ∈ xs ++ (create :: ys ++ [alter]) :=
        List.mem_append_right _ List.mem_cons_self
      have hlast : alter ∈ xs ++ (create :: ys ++ [alter]) :=
        List.mem_append_right _ (List.mem_append_right _ List.mem_cons_self)
      exact .inr (.inr (.inr ⟨⟨create, hmem, hcreate⟩, ⟨alter, hlast, hexpires⟩, rfl⟩))

/-- An attempt sets the expiration exactly if it creates the table and says so, or fails for want of
a timely answer to the statement. -/
theorem expires_iff
    (h : Reconciling (Noted.Idle config table p) (Creation config table p) a.notes a.result) :
    a.Expires config table p ↔ a.Creates config table ∧
      (a.result = .ok (some .created) ∨ a.ExpiresLate config table p) := by
  rcases cases_of_reconciling h with ⟨hnot, hexpires, -⟩ | ⟨-, hexpires, e, he⟩ |
    ⟨hcreates, hlate, -⟩ | ⟨hcreates, hexpires, hresult⟩
  · exact iff_of_false hexpires fun h => hnot h.1
  · refine iff_of_false hexpires ?_
    rintro ⟨-, hresult | hlate⟩
    · cases he.symm.trans hresult
    · exact hexpires hlate.expires
  · exact iff_of_true hlate.expires ⟨hcreates, .inr hlate⟩
  · exact iff_of_true hexpires ⟨hcreates, .inl hresult⟩

/-- An attempt that says that it created the table did so, and set the expiration. -/
theorem expires_of_created
    (h : Reconciling (Noted.Idle config table p) (Creation config table p) a.notes a.result)
    (hresult : a.result = .ok (some .created)) :
    a.Creates config table ∧ a.Expires config table p := by
  rcases cases_of_reconciling h with ⟨-, -, hnot⟩ | ⟨-, -, e, he⟩ | ⟨-, -, e, he⟩ |
    ⟨hcreates, hexpires, -⟩
  · exact absurd hresult hnot
  · cases he.symm.trans hresult
  · cases he.symm.trans hresult
  · exact ⟨hcreates, hexpires⟩

/-- An attempt that found the table sets nothing, even if it was the caller who created it. -/
theorem not_expires_of_found
    (h : Reconciling (Noted.Idle config table p) (Creation config table p) a.notes a.result)
    {r : Reconciled} (hr : r ≠ .created) (hresult : a.result = .ok (some r)) :
    ¬ a.Creates config table ∧ ¬ a.Expires config table p := by
  rcases cases_of_reconciling h with ⟨hcreates, hexpires, -⟩ | ⟨-, -, e, he⟩ | ⟨-, -, e, he⟩ |
    ⟨-, -, hcreated⟩
  · exact ⟨hcreates, hexpires⟩
  · cases he.symm.trans hresult
  · cases he.symm.trans hresult
  · cases hcreated.symm.trans hresult
    exact absurd rfl hr

end Attempt

/-- The partition expiration of a table has been set by a caller who reconciles it exactly if one of
the calls created the table and returned so, or failed only because the statement was answered
late. A call that finds the table, or adds columns to it, neither creates it nor sets anything. -/
theorem expiration_set_iff (config : Config) {p : Partitioning} (hp : config.partitioning = some p)
    (client : Client σ) (table : String) (trials : List (Trial σ)) (c : Clocked σ) :
    ((∃ a ∈ attempts config client table trials c, a.Expires config table p) ↔
      ∃ a ∈ attempts config client table trials c, a.Creates config table ∧
        (a.result = .ok (some .created) ∨ a.ExpiresLate config table p)) ∧
    ∀ a ∈ attempts config client table trials c,
      (a.result = .ok (some .created) → a.Creates config table ∧ a.Expires config table p) ∧
      ∀ r, r ≠ .created → a.result = .ok (some r) →
        ¬ a.Creates config table ∧ ¬ a.Expires config table p := by
  have hone := fun a (ha : a ∈ attempts config client table trials c) => reconciling_of_mem hp ha
  refine ⟨exists_congr fun a => and_congr_right fun ha => Attempt.expires_iff (hone a ha), ?_⟩
  intro a ha
  exact ⟨Attempt.expires_of_created (hone a ha), fun r => Attempt.not_expires_of_found (hone a ha)⟩

/-- A schema with the day that its table is partitioned by. -/
def daily : Schema :=
  ⟨[.plain "day" (.scalar .date32) false], by decide⟩

/-- A table is created in the first call and found in the second. -/
theorem expiration_set_iff_daily :
    let p : Partitioning := { field := "day", expirationDays := 7 }
    let config : Config := { projectId := "p", dataset := "d", partitioning := some p }
    let as := attempts config keeper "t" [⟨daily, 1, id, 0⟩, ⟨daily, 1, id, 0⟩] ⟨none, 0⟩
    as.map (·.result) = [.ok (some .created), .ok (some .unchanged)] ∧
      ∃ a ∈ as, a.Expires config "t" p := by
  intro p config as
  have hresults : as.map (·.result) = [.ok (some .created), .ok (some .unchanged)] := by
    decide +kernel
  rcases expiration_set_iff config (p := p) rfl keeper "t"
    [⟨daily, 1, id, 0⟩, ⟨daily, 1, id, 0⟩] ⟨none, 0⟩ with ⟨hset, hsent⟩
  have hcreated : .ok (some .created) ∈ as.map (·.result) := hresults ▸ List.mem_cons_self
  rcases List.mem_map.1 hcreated with ⟨a, ha, hresult⟩
  exact ⟨hresults, hset.2 ⟨a, ha, ((hsent a ha).1 hresult).1, .inl hresult⟩⟩

/-- A service that grants no statement. -/
def grudging : Client (Option (List FieldSchema)) :=
  { keeper with query := fun _ s => (⟨.error ⟨503, "backendError", "try again"⟩, 0⟩, s) }

/-- The statement is refused in the first call, and the second call finds the table and succeeds
without it. -/
theorem expiration_forgotten :
    let p : Partitioning := { field := "day", expirationDays := 7 }
    let config : Config := { projectId := "p", dataset := "d", partitioning := some p }
    let as := attempts config grudging "t" [⟨daily, 1, id, 0⟩, ⟨daily, 1, id, 0⟩] ⟨none, 0⟩
    as.map (·.result) = [.error (.backend "created table, but failed to set partition expiration"
        ["bigquery api error 503 (backendError): try again"]), .ok (some .unchanged)] ∧
      (∃ a ∈ as, a.Creates config "t") ∧ ∀ a ∈ as, ¬ a.Expires config "t" p := by
  decide +kernel

end BigQuery
end Ingest
