import Ingest.Proofs.Batching.Grouping
import Ingest.Proofs.BigQuery.Stream

/-!
# Batched and direct writes

The same calls are made to a batching driver and to the driver behind it. A batch is sent under the
schema of its newest call, so that the client receives the same data in both runs exactly if every
row of a delivered group is sent alike under that schema and under the schema of its own call, and
if nothing is left undelivered (`batched_same_data_iff`).
-/

namespace Ingest
namespace BigQuery

open Effect Batching

variable {σ : Type}

/-! ## Direct writes -/

/-- Makes calls one after the other. -/
def writeAll (d : Driver (StateM (Clocked σ))) (calls : List Batch) : Action σ Unit :=
  calls.forM fun call => d.write call.table call.schema call.rows

/-- What the rows of calls are sent as, each under the schema of its call. -/
def ownObjects (calls : List Batch) : List (Outcome Json) :=
  calls.flatMap fun call => call.rows.map (rowObject call.schema)

@[simp] theorem ownObjects_cons (call : Batch) (rest : List Batch) :
    ownObjects (call :: rest) = call.rows.map (rowObject call.schema) ++ ownObjects rest := rfl

@[simp] theorem ownObjects_append (as bs : List Batch) :
    ownObjects (as ++ bs) = ownObjects as ++ ownObjects bs :=
  List.flatMap_append

theorem ownObjects_filter (calls : List Batch) :
    ownObjects (calls.filter fun b => !b.rows.isEmpty) = ownObjects calls := by
  induction calls with
  | nil => rfl
  | cons call rest ih =>
    cases hrows : call.rows with
    | nil => simp [hrows, ih]
    | cons row rows => simp [hrows, ih]

theorem length_ownObjects (calls : List Batch) :
    (ownObjects calls).length = (rowsOf calls).length := by
  induction calls with
  | nil => rfl
  | cons call rest ih =>
    rw [ownObjects_cons, rowsOf_cons, List.length_append, List.length_append, List.length_map, ih]

section Runs

variable {config : Config} {client : Client σ} {table : String} {received : σ → List Payload}

/-- The driver sends what has a payload and refuses the rest. -/
theorem Accepts.delivers (a : Accepts config client table received) :
    Delivers (config.driver client) table config.payload fun c => received c.server where
  sent := by
    intro schema rows p c hrows hp
    exact a.run_write hrows hp c
  refused := by
    intro schema rows e c hrows he
    exact ⟨e, c, run_write_of_error hrows he c, rfl⟩

/-- Calls whose rows format are received as they are made. -/
theorem Accepts.run_writeAll (a : Accepts config client table received) {calls : List Batch}
    {ys : List Json} (htable : ∀ call ∈ calls, call.table = table)
    (hys : ownObjects calls = ys.map .ok) (c : Clocked σ) :
    ∃ c' ps, (writeAll (config.driver client) calls).run c = (.ok (), c') ∧
      received c'.server = received c.server ++ ps ∧
        stream ps = stream [.ofObjects config.writer ys] := by
  induction calls generalizing ys c with
  | nil =>
    have hnil : ys = [] := by
      simpa [ownObjects] using hys.symm
    subst hnil
    exact ⟨c, [], rfl, (List.append_nil _).symm, stream_nil config.writer⟩
  | cons call rest ih =>
    rw [ownObjects_cons] at hys
    -- The objects of this call come first, and those of the others follow.
    rcases List.map_eq_append_iff.1 hys.symm with ⟨os, ys', rfl, hos, hys'⟩
    have hrest : ∀ call ∈ rest, call.table = table := by
      intro call' hcall'
      exact htable call' (List.mem_cons_of_mem call hcall')
    have hcall : call.table = table := htable call List.mem_cons_self
    -- A call without rows sends nothing, and any other exactly one payload.
    by_cases hrows : call.rows = []
    · have hnil : os = [] := by
        simpa [hrows] using hos
      subst hnil
      rcases ih hrest hys'.symm c with ⟨c', ps, hrun, hreceived, hstream⟩
      refine ⟨c', ps, ?_, hreceived, hstream⟩
      have hwrite : ((config.driver client).write call.table call.schema call.rows).run c =
          (.ok (), c) := by
        rw [hrows]
        rfl
      exact (run_bind_of_ok hwrite).trans hrun
    · have hp := payload_of_objects config hrows hos.symm
      rcases a.run_write hrows hp c with ⟨c₁, hwrite, hreceived₁⟩
      rcases ih hrest hys'.symm c₁ with ⟨c', ps, hrun, hreceived, hstream⟩
      refine ⟨c', .ofObjects config.writer os :: ps, ?_, ?_, ?_⟩
      · have hdriver : ((config.driver client).write call.table call.schema call.rows).run c =
            (.ok (), c₁) := by
          rw [hcall]
          exact hwrite
        exact (run_bind_of_ok hdriver).trans hrun
      · rw [hreceived, hreceived₁, List.append_assoc]
        rfl
      · exact stream_cons_ofObjects hstream os

end Runs

/-! ## Groups under one schema -/

/-- Every row of a group is sent alike under the schema of the newest call and under that of its
own call. -/
def SentAlike (config : Config) (group : List Batch) : Prop :=
  ∀ newest ∈ group.getLast?, ∀ call ∈ group, ∀ row ∈ call.rows,
    config.payload newest.schema [row] = config.payload call.schema [row]

/-- Calls that were made with one schema are sent alike. -/
theorem sentAlike_of_one_schema {config : Config} {group : List Batch} (schema : Schema)
    (h : ∀ call ∈ group, call.schema = schema) : SentAlike config group := by
  intro newest hnewest call hcall row _
  rw [h newest (List.mem_of_getLast? hnewest), h call hcall]

/-- The rows of a group with the schema of the newest call and that of their own. -/
def sendings (group : List Batch) : List (Schema × Schema × Row) :=
  group.getLast?.toList.flatMap fun newest =>
    group.flatMap fun call => call.rows.map fun row => (newest.schema, call.schema, row)

theorem sentAlike_iff {config : Config} {group : List Batch} :
    SentAlike config group ↔
      ∀ t ∈ sendings group, config.payload t.1 [t.2.2] = config.payload t.2.1 [t.2.2] := by
  simp only [SentAlike, sendings, List.mem_flatMap, List.mem_map, Option.mem_toList]
  constructor
  · rintro h _ ⟨newest, hnewest, call, hcall, row, hrow, rfl⟩
    exact h newest hnewest call hcall row hrow
  · intro h newest hnewest call hcall row hrow
    exact h _ ⟨newest, hnewest, call, hcall, row, hrow, rfl⟩

theorem map_own_sendings (group : List Batch) :
    (sendings group).map (fun t => rowObject t.2.1 t.2.2) = ownObjects group := by
  cases hlast : group.getLast? with
  | none =>
    have hnil : group = [] := List.getLast?_eq_none_iff.1 hlast
    subst hnil
    rfl
  | some newest => simp [sendings, hlast, ownObjects, List.map_flatMap, Function.comp_def]

theorem map_newest_sendings {group : List Batch} {b : Batch} (hb : merged? group = some b) :
    (sendings group).map (fun t => rowObject t.1 t.2.2) = b.rows.map (rowObject b.schema) := by
  rcases Option.map_eq_some_iff.1 hb with ⟨newest, hnewest, rfl⟩
  simp [sendings, hnewest, rowsOf, List.map_flatMap, Function.comp_def]

/-- The stream of delivered groups. -/
theorem exists_objects_of_sentAs {config : Config} {groups : List (List Batch)} {ps : List Payload}
    (h : List.Forall₂ (SentAs config.payload) groups ps) :
    ∃ xs, stream ps = stream [.ofObjects config.writer xs] ∧
      (groups.flatMap sendings).map (fun t => rowObject t.1 t.2.2) = xs.map .ok := by
  induction h with
  | nil => exact ⟨[], stream_nil config.writer, rfl⟩
  | @cons group p groups ps hp _ ih =>
    rcases hp with ⟨b, hb, hsent⟩
    rcases payload_eq_ok hsent with ⟨os, hos, rfl⟩
    rcases ih with ⟨xs, hstream, hxs⟩
    refine ⟨os ++ xs, ?_, ?_⟩
    · exact stream_cons_ofObjects hstream os
    · rw [List.flatMap_cons, List.map_append, map_newest_sendings hb, hos, hxs, List.map_append]

theorem map_own_flatMap_sendings (groups : List (List Batch)) :
    (groups.flatMap sendings).map (fun t => rowObject t.2.1 t.2.2) = ownObjects groups.flatten := by
  induction groups with
  | nil => rfl
  | cons group rest ih =>
    rw [List.flatMap_cons, List.map_append, map_own_sendings, ih, List.flatten_cons,
      ownObjects_append]

/-- The direct calls send the rows of the groups and those that were left over. -/
theorem length_of_groups {groups : List (List Batch)} {rest : List Batch} {xs ys : List Json}
    (hxs : (groups.flatMap sendings).map (fun t => rowObject t.1 t.2.2) = xs.map .ok)
    (hys : ownObjects (groups.flatten ++ rest) = ys.map .ok) :
    ys.length = xs.length + (rowsOf rest).length := by
  have hsent : (groups.flatMap sendings).length = xs.length := by
    have hlength := congrArg List.length hxs
    rwa [List.length_map, List.length_map] at hlength
  calc
    ys.length = (ownObjects (groups.flatten ++ rest)).length := by
      rw [hys, List.length_map]
    _ = (ownObjects groups.flatten).length + (ownObjects rest).length := by
      rw [ownObjects_append, List.length_append]
    _ = (groups.flatMap sendings).length + (rowsOf rest).length := by
      rw [← map_own_flatMap_sendings, List.length_map, length_ownObjects]
    _ = xs.length + (rowsOf rest).length := by
      rw [hsent]

/-- Groups are received as their calls alone would be exactly if nothing is left over and every
group is sent alike. -/
theorem stream_groups_eq_iff {config : Config} {groups : List (List Batch)} {rest : List Batch}
    {ps : List Payload} {ys : List Json} (hps : List.Forall₂ (SentAs config.payload) groups ps)
    (hys : ownObjects (groups.flatten ++ rest) = ys.map .ok)
    (hrest : ∀ call ∈ rest, call.rows ≠ []) :
    stream ps = stream [.ofObjects config.writer ys] ↔
      rest = [] ∧ ∀ group ∈ groups, SentAlike config group := by
  rcases exists_objects_of_sentAs hps with ⟨xs, hstream, hxs⟩
  rw [hstream]
  cases rest with
  | nil =>
    rw [List.append_nil, ← map_own_flatMap_sendings] at hys
    rw [stream_eq_iff_alike hxs hys]
    simp only [true_and, List.mem_flatMap, sentAlike_iff]
    constructor
    · intro h group hgroup t ht
      exact h t ⟨group, hgroup, ht⟩
    · rintro h t ⟨group, hgroup, ht⟩
      exact h group hgroup t ht
  | cons call more =>
    constructor
    · intro h
      -- The direct calls send more objects.
      exfalso
      have hsame : xs.length = ys.length := (stream_ofObjects_eq_iff.1 h).length_eq
      have hmore : ys.length = xs.length + (rowsOf (call :: more)).length :=
        length_of_groups hxs hys
      have hpos : 0 < call.rows.length :=
        List.length_pos_of_ne_nil (hrest call List.mem_cons_self)
      rw [rowsOf_cons, List.length_append] at hmore
      omega
    · rintro ⟨hnil, -⟩
      cases hnil

/-! ## Batched and direct -/

theorem table_of_mem_calls {table : String} {turns : List Turn} {call : Batch}
    (h : call ∈ Turn.calls table turns) : call.table = table := by
  rcases List.mem_filterMap.1 h with ⟨t, -, ht⟩
  cases t with
  | call schema rows =>
    cases ht
    rfl
  | flush => cases ht
  | deliver => cases ht

/-- Rows that format have objects. -/
theorem exists_ownObjects {config : Config} {calls : List Batch}
    (h : ∀ call ∈ calls, ∀ row ∈ call.rows, ∃ p, config.payload call.schema [row] = .ok p) :
    ∃ ys : List Json, ownObjects calls = ys.map .ok := by
  apply Outcome.exists_results
  intro o ho
  rcases List.mem_flatMap.1 ho with ⟨call, hcall, ho⟩
  rcases List.mem_map.1 ho with ⟨row, hrow, rfl⟩
  rcases h call hcall row hrow with ⟨p, hp⟩
  exact exists_rowObject hp

/-- A group that is sent alike, and whose rows format, is not refused. -/
theorem payload_of_sentAlike {config : Config} {group : List Batch} {b : Batch}
    (hb : merged? group = some b) (hrows : b.rows ≠ [])
    (hformats : ∀ call ∈ group, ∀ row ∈ call.rows,
      ∃ p, config.payload call.schema [row] = .ok p)
    (halike : SentAlike config group) : ∃ p, config.payload b.schema b.rows = .ok p := by
  rcases Option.map_eq_some_iff.1 hb with ⟨newest, hnewest, rfl⟩
  have hobjects : ∃ xs : List Json,
      (rowsOf group).map (rowObject newest.schema) = xs.map .ok := by
    apply Outcome.exists_results
    intro o ho
    rcases List.mem_map.1 ho with ⟨row, hrow, rfl⟩
    rcases List.mem_flatMap.1 hrow with ⟨call, hcall, hrow⟩
    rcases hformats call hcall row hrow with ⟨p, hp⟩
    have hsame := halike newest hnewest call hcall row hrow
    exact exists_rowObject (hsame.trans hp)
  rcases hobjects with ⟨xs, hxs⟩
  exact ⟨_, payload_of_objects config hrows hxs⟩

/-- The client of a batching driver receives the groups of the run, each under the schema of its
newest call. It receives the same data as from the same calls made directly exactly if every row of
every group, be it delivered or left over, is sent alike under that schema and its own. -/
theorem batched_same_data_iff (config : Config) (client : Client σ) (table : String)
    (received : σ → List Payload) (a : Accepts config client table received)
    (settings : Batching.Config) (delay : Batch → Clocked σ → Nat) (c : Clocked σ)
    (r : Runner (Clocked σ)) (hr : Runner.start settings c = .ok r) (turns : List Turn)
    (hformats : ∀ call ∈ Turn.calls table turns, ∀ row ∈ call.rows,
      ∃ p, config.payload call.schema [row] = .ok p) :
    let inner : Inner (Clocked σ) := ⟨config.driver client, delay⟩
    let batched := (r.run inner table turns).shutdown inner
    let direct := (writeAll (config.driver client) (Turn.calls table turns)).run c
    let g := (Grouping.run config.payload table turns).shutdown config.payload
    direct.1 = .ok () ∧
      g.delivered.flatten ++ g.waiting =
        (Turn.calls table turns).filter (fun call => !call.rows.isEmpty) ∧
      (∃ ps, List.Forall₂ (SentAs config.payload) g.delivered ps ∧
        received batched.server.server = received c.server ++ ps) ∧
      (stream (received batched.server.server) = stream (received direct.2.server) ↔
        ∀ group ∈ g.waiting :: g.delivered, SentAlike config group) := by
  intro inner batched direct g
  have hcalls : g.delivered.flatten ++ g.waiting =
      (Turn.calls table turns).filter fun call => !call.rows.isEmpty :=
    Grouping.calls_shutdown table turns
  -- Calls without rows are in no group.
  have hmem : ∀ call ∈ g.delivered.flatten ++ g.waiting,
      call ∈ Turn.calls table turns ∧ call.rows ≠ [] := by
    intro call hcall
    rw [hcalls] at hcall
    simpa using hcall
  have hsimulates : Simulates config.payload (fun c : Clocked σ => received c.server) table
      (received c.server) true batched g :=
    ((Simulates.start hr).run a.delivers turns).shutdown a.delivers
  rcases hsimulates.sent with ⟨ps, hps, hbatched⟩
  rcases exists_ownObjects hformats with ⟨ys, hys⟩
  rcases a.run_writeAll (fun call hcall => table_of_mem_calls hcall) hys c with
    ⟨c', ps', hdirect, hreceived, hstream⟩
  have hdirect' : direct = (.ok (), c') := hdirect
  rw [hdirect']
  refine ⟨rfl, hcalls, ⟨ps, hps, hbatched⟩, ?_⟩
  rw [hbatched, hreceived, stream_append_eq_iff, hstream]
  -- The direct calls send the rows of the groups, in the order of the groups.
  rw [← ownObjects_filter, ← hcalls] at hys
  have hrest : ∀ call ∈ g.waiting, call.rows ≠ [] := by
    intro call hcall
    exact (hmem call (List.mem_append_right _ hcall)).2
  -- It remains to see that nothing is left over exactly if what waits is sent alike.
  rw [stream_groups_eq_iff hps hys hrest, List.forall_mem_cons]
  apply and_congr_left
  intro _
  constructor
  · intro hnil
    rw [hnil]
    nofun
  · intro halike
    rcases Grouping.waiting_shutdown (Grouping.run config.payload table turns) with
      hnil | ⟨b, e, hb, he⟩
    · exact hnil
    · -- What was refused in the last flush is not sent alike.
      exfalso
      have hrows : b.rows ≠ [] := rows_ne_nil_of_merged? hb hrest
      have hwaiting : ∀ call ∈ g.waiting, ∀ row ∈ call.rows,
          ∃ p, config.payload call.schema [row] = .ok p := by
        intro call hcall
        exact hformats call (hmem call (List.mem_append_right _ hcall)).1
      rcases payload_of_sentAlike hb hrows hwaiting halike with ⟨p, hp⟩
      cases he.symm.trans hp

/-- A client that accepts everything and keeps it. -/
def inbox : Client (List Payload) where
  createTable _ _ _ s := (⟨.ok (), 0⟩, s)
  tableMetadata _ _ s := (⟨.ok ⟨[], none, none⟩, 0⟩, s)
  updateSchema _ _ _ _ s := (⟨.ok (), 0⟩, s)
  query _ s := (⟨.ok (), 0⟩, s)
  insertRows _ _ rows s := (⟨.ok (), 0⟩, s ++ [.objects rows])
  loadLines _ _ text s := (⟨.ok (), 0⟩, s ++ [.lines text])

theorem accepts_inbox (config : Config) (table : String) : Accepts config inbox table id where
  accepted p s := by cases p <;> rfl
  inTime p s := by cases p <;> exact Nat.zero_le _
  kept p s := by cases p <;> rfl

/-- A call with one row of one nullable text. -/
def note (column text : String) : Batch :=
  ⟨"t", ⟨[.plain column (.scalar .string) true], by simp⟩, [[(column, .string text)]]⟩

/-- The turn of a call. -/
def turnOf (call : Batch) : Turn :=
  .call call.schema call.rows

/-- The configuration of the calls. -/
def notes : Config := { projectId := "p", dataset := "d" }

theorem formats_notes :
    ∀ call ∈ [note "a" "x", note "b" "y"], ∀ row ∈ call.rows,
      ∃ p, notes.payload call.schema [row] = .ok p := by
  intro call hcall row hrow
  rcases List.mem_cons.1 hcall with rfl | hcall
  · rw [List.mem_singleton.1 hrow]
    exact ⟨_, rfl⟩
  · rw [List.mem_singleton.1 hcall] at hrow ⊢
    rw [List.mem_singleton.1 hrow]
    exact ⟨_, rfl⟩

/-- Calls with different schemas that a flush separates are received as they were made. -/
theorem batched_same_data_iff_flushed :
    let inner : Inner (Clocked (List Payload)) := ⟨notes.driver inbox, fun _ _ => 0⟩
    let turns : List Turn := [turnOf (note "a" "x"), .flush, .deliver, turnOf (note "b" "y")]
    ∃ r, Runner.start {} ⟨[], 0⟩ = .ok r ∧
      stream ((r.run inner "t" turns).shutdown inner).server.server =
        stream ((writeAll (notes.driver inbox) (Turn.calls "t" turns)).run ⟨[], 0⟩).2.server := by
  intro inner turns
  have hstart : Runner.start {} (⟨[], 0⟩ : Clocked (List Payload)) = .ok _ := rfl
  have hgroups := (batched_same_data_iff notes inbox "t" id (accepts_inbox notes "t") {}
    (fun _ _ => 0) ⟨[], 0⟩ _ hstart turns formats_notes).2.2.2
  have hrun : (Grouping.run notes.payload "t" turns).shutdown notes.payload =
      ⟨[[note "a" "x"], [note "b" "y"]], [], []⟩ := rfl
  refine ⟨_, hstart, hgroups.2 ?_⟩
  rw [hrun]
  intro group hgroup
  simp only [List.mem_cons, List.not_mem_nil, or_false] at hgroup
  rcases hgroup with rfl | rfl | rfl
  · exact sentAlike_of_one_schema (note "a" "x").schema nofun
  · exact sentAlike_of_one_schema (note "a" "x").schema (by simp)
  · exact sentAlike_of_one_schema (note "b" "y").schema (by simp)

/-- Calls with different schemas that are gathered in one batch are all sent under the newer one:
the column of the older call is dropped, and null is sent for the other in its row. -/
theorem batched_drops_column :
    let inner : Inner (Clocked (List Payload)) := ⟨notes.driver inbox, fun _ _ => 0⟩
    let turns : List Turn := [turnOf (note "a" "x"), turnOf (note "b" "y")]
    Accepts notes inbox "t" id ∧
      (∀ call ∈ Turn.calls "t" turns, ∀ row ∈ call.rows,
        ∃ p, notes.payload call.schema [row] = .ok p) ∧
      ∃ r, Runner.start {} ⟨[], 0⟩ = .ok r ∧
        stream ((r.run inner "t" turns).shutdown inner).server.server =
          ([.object [("b", .null)], .object [("b", .string "y")]], "") ∧
        stream ((r.run inner "t" turns).shutdown inner).server.server ≠
          stream ((writeAll (notes.driver inbox) (Turn.calls "t" turns)).run ⟨[], 0⟩).2.server := by
  intro inner turns
  have hstart : Runner.start {} (⟨[], 0⟩ : Clocked (List Payload)) = .ok _ := rfl
  have hdifferent : (([.object [("b", .null)], .object [("b", .string "y")]], "") :
      List Json × String) ≠
        ([.object [("a", .string "x")], .object [("b", .string "y")]], "") := by
    simp
  exact ⟨accepts_inbox notes "t", formats_notes, _, hstart, rfl, hdifferent⟩

end BigQuery
end Ingest
