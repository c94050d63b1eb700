import Ingest.Proofs.Batching.History

/-!
# Conservation of rows

No row that was accepted is lost, doubled or moved. While what waits is drained only at rest, the
accepted calls for a table divide into groups that left the machine one after the other, a group
that is in flight, and a group that is the buffer (`Division`). A group becomes one batch, which
holds whole calls and carries the schema of the newest of them (`merged?`). Drains during a flush
can move rows past those in flight, but the rows stay the same as a multiset.
-/

namespace Ingest
namespace Batching

/-! ## Calls in one batch -/

/-- The batch that consecutive calls for one table gather into. -/
def merged? (calls : List Batch) : Option Batch :=
  calls.getLast?.map fun newest => ⟨newest.table, newest.schema, rowsOf calls⟩

/-- A batch holds consecutive calls out of those for its table, each as a whole. -/
def IsBlock (accepted : List Batch) (b : Batch) : Prop :=
  ∃ calls, calls <:+: batchesFor b.table accepted ∧ merged? calls = some b

@[simp] theorem merged?_nil : merged? [] = none := rfl

theorem eq_nil_of_merged?_eq_none {calls : List Batch} (h : merged? calls = none) :
    calls = [] := by
  simpa [merged?] using h

@[simp] theorem merged?_append_singleton (calls : List Batch) (c : Batch) :
    merged? (calls ++ [c]) = some ⟨c.table, c.schema, rowsOf calls ++ c.rows⟩ := by
  simp [merged?]

theorem rows_of_merged? {calls : List Batch} {b : Batch} (h : merged? calls = some b) :
    b.rows = rowsOf calls := by
  rcases Option.map_eq_some_iff.1 h with ⟨newest, -, rfl⟩
  rfl

theorem table_of_merged? {calls : List Batch} {b : Batch} {table : String}
    (h : merged? calls = some b) (hc : ∀ c ∈ calls, c.table = table) : b.table = table := by
  rcases Option.map_eq_some_iff.1 h with ⟨newest, hnewest, rfl⟩
  exact hc newest (List.mem_of_getLast? hnewest)

theorem rows_ne_nil_of_merged? {calls : List Batch} {b : Batch} (h : merged? calls = some b)
    (hc : ∀ c ∈ calls, c.rows ≠ []) : b.rows ≠ [] := by
  rcases Option.map_eq_some_iff.1 h with ⟨newest, hnewest, rfl⟩
  have hmem : newest ∈ calls := List.mem_of_getLast? hnewest
  intro hnil
  exact hc newest hmem (List.flatMap_eq_nil_iff.1 hnil newest hmem)

/-- Older calls in front change the rows and nothing else. -/
theorem merged?_append {older newer : List Batch} {b : Batch} (h : merged? newer = some b) :
    merged? (older ++ newer) = some ⟨b.table, b.schema, rowsOf older ++ b.rows⟩ := by
  rcases Option.map_eq_some_iff.1 h with ⟨newest, hnewest, rfl⟩
  simp [merged?, List.getLast?_append, hnewest]

namespace Machine

/-- The buffer that calls for a table gather into. -/
theorem pendingRows_of_merged? {m : Machine} {table : String} {calls : List Batch}
    (h : Dict.get? m.buffers table = (merged? calls).map fun b => ⟨b.schema, b.rows⟩) :
    m.pendingRows table = rowsOf calls := by
  rw [pendingRows, h]
  cases hc : merged? calls with
  | none =>
    rw [eq_nil_of_merged?_eq_none hc]
    rfl
  | some b => simpa using rows_of_merged? hc

/-- One more call gathers behind the others. -/
theorem get?_append_of_merged? {m : Machine} {c : Batch} {calls : List Batch}
    (h : Dict.get? m.buffers c.table = (merged? calls).map fun b => ⟨b.schema, b.rows⟩) :
    Dict.get? (m.append c.table c.schema c.rows).buffers c.table =
      (merged? (calls ++ [c])).map fun b => ⟨b.schema, b.rows⟩ := by
  simp [append, Dict.get?_insert, pendingRows_of_merged? h]

/-- The calls of a batch that is put back gather with the newer ones. -/
theorem get?_restore_of_merged? {m : Machine} {b : Batch} {older newer : List Batch}
    (hb : merged? older = some b)
    (h : Dict.get? m.buffers b.table = (merged? newer).map fun b => ⟨b.schema, b.rows⟩) :
    Dict.get? (m.restore b).buffers b.table =
      (merged? (older ++ newer)).map fun b => ⟨b.schema, b.rows⟩ := by
  have hrows := pendingRows_of_merged? h
  cases hn : merged? newer with
  | none =>
    -- Nothing came in the meantime, so the batch keeps its schema.
    have hnil : newer = [] := eq_nil_of_merged?_eq_none hn
    rw [hnil, List.append_nil, hb]
    simp [restore, Dict.get?_insert, h, hrows, hnil]
  | some c =>
    -- The newer calls give the schema, and the older rows go in front of theirs.
    rw [merged?_append hn]
    simp [restore, Dict.get?_insert, h, hrows, hn, rows_of_merged? hb, rows_of_merged? hn]

end Machine

theorem rowsOf_filterMap_merged? (groups : List (List Batch)) :
    rowsOf (groups.filterMap merged?) = rowsOf groups.flatten := by
  induction groups with
  | nil => rfl
  | cons calls rest ih =>
    cases hm : merged? calls with
    | none =>
      -- Only a group without calls makes no batch.
      rw [List.filterMap_cons_none hm, eq_nil_of_merged?_eq_none hm]
      simpa using ih
    | some b => simp [hm, ih, rows_of_merged? hm]

theorem IsBlock.extend {accepted : List Batch} {b : Batch} (h : IsBlock accepted b)
    (c : Batch) : IsBlock (accepted ++ [c]) b := by
  rcases h with ⟨calls, hinfix, hb⟩
  refine ⟨calls, ?_, hb⟩
  rw [batchesFor_append]
  exact hinfix.trans (List.prefix_append _ _).isInfix

/-! ## Order of tables -/

/-- The buffers are in the order of their tables, and a flush holds each table once. -/
structure Tidy (h : History) : Prop where
  sorted : Dict.Sorted h.machine.buffers
  nodup : (h.machine.phase.inFlight.map (·.table)).Nodup

theorem Tidy.step {atRest : Bool} {h h' : History} (ht : Tidy h) (hs : Step atRest h h') :
    Tidy h' := by
  cases hs with
  | write call hne =>
    cases hc : h.machine.closed with
    | true =>
      rw [History.write_of_closed hne hc]
      exact ht
    | false =>
      rw [History.write_of_open hne hc]
      exact ⟨Machine.sorted_append ht.sorted _ _ _, ht.nodup⟩
  | beginFlush t order _ _ hperm =>
    refine ⟨List.Pairwise.nil, ?_⟩
    -- The tables are taken in any order, but each of them once.
    have hnd : (order.map (·.table)).Nodup := by
      apply (hperm.map _).nodup_iff.2
      rw [Machine.map_table_snapshot]
      exact ht.sorted.nodup_keys
    simpa [History.beginFlush, Machine.beginFlushOf] using hnd
  | resolve last b rest delivered hphase =>
    have hrest : (rest.map (·.table)).Nodup := by
      have hnd := ht.nodup
      rw [hphase] at hnd
      exact (List.nodup_cons.1 hnd).2
    constructor
    · rw [History.machine_resolve hphase]
      cases delivered with
      | true => exact ht.sorted
      | false => exact Machine.sorted_restore ht.sorted b
    · rw [History.machine_resolve hphase]
      simpa using hrest
  | drain _ => exact ⟨List.Pairwise.nil, ht.nodup⟩

theorem tidy_of_reachable {atRest : Bool} {n : Nat} {h : History} (hr : Reachable atRest n h) :
    Tidy h := by
  induction hr with
  | start => exact ⟨List.Pairwise.nil, List.nodup_nil⟩
  | step _ hs ih => exact ih.step hs

/-! ## The division of the calls -/

/-- The calls for a table in the order in which they came: the groups that left one after the
other, the group in flight and the group that waits. -/
structure Division (h : History) (table : String) (left : List (List Batch))
    (aloft waiting : List Batch) : Prop where
  calls : batchesFor table h.accepted = left.flatten ++ aloft ++ waiting
  handedOut : batchesFor table h.handedOut = left.filterMap merged?
  inFlight : batchesFor table h.machine.phase.inFlight = (merged? aloft).toList
  buffer : Dict.get? h.machine.buffers table =
    (merged? waiting).map fun b => ⟨b.schema, b.rows⟩

namespace Division

variable {h : History} {table : String} {left : List (List Batch)} {aloft waiting : List Batch}

theorem table_of_mem (d : Division h table left aloft waiting) {c : Batch}
    (hc : c ∈ left.flatten ++ aloft ++ waiting) : c.table = table := by
  rw [← d.calls] at hc
  simpa using (List.mem_filter.1 hc).2

theorem aloft_eq_nil (d : Division h table left aloft waiting)
    (hrest : batchesFor table h.machine.phase.inFlight = []) : aloft = [] := by
  have hm : (merged? aloft).toList = [] := d.inFlight ▸ hrest
  exact eq_nil_of_merged?_eq_none (Option.toList_eq_nil_iff.1 hm)

theorem rowsFor_handedOut (d : Division h table left aloft waiting) :
    rowsFor table h.handedOut = rowsOf left.flatten := by
  rw [rowsFor, d.handedOut, rowsOf_filterMap_merged?]

theorem rowsFor_inFlight (d : Division h table left aloft waiting) :
    rowsFor table h.machine.phase.inFlight = rowsOf aloft := by
  rw [rowsFor, d.inFlight]
  cases ha : merged? aloft with
  | none =>
    rw [eq_nil_of_merged?_eq_none ha]
    rfl
  | some b => simpa using rows_of_merged? ha

theorem pendingRows_eq (d : Division h table left aloft waiting) :
    h.machine.pendingRows table = rowsOf waiting :=
  Machine.pendingRows_of_merged? d.buffer

/-- The buffer of a table as a batch is what its waiting calls gather into. -/
theorem snapshot (d : Division h table left aloft waiting)
    (hs : Dict.Sorted h.machine.buffers) :
    batchesFor table h.machine.snapshot = (merged? waiting).toList := by
  rw [Machine.batchesFor_snapshot hs, d.buffer]
  cases hw : merged? waiting with
  | none => rfl
  | some b =>
    -- A batch carries the table of its calls, and these are all for `table`.
    have htable : b.table = table :=
      table_of_merged? hw fun c hc => d.table_of_mem (List.mem_append_right _ hc)
    subst htable
    rfl

/-- A call that is accepted waits behind the others for its table. -/
theorem write {call : Batch} (d : Division h table left aloft waiting) (hne : call.rows ≠ []) :
    ∃ more, Division (h.write call) table left aloft (waiting ++ more) := by
  cases hc : h.machine.closed with
  | true =>
    rw [History.write_of_closed hne hc]
    exact ⟨[], by simpa using d⟩
  | false =>
    rw [History.write_of_open hne hc]
    by_cases ht : call.table = table
    · subst ht
      refine ⟨[call], ?_, d.handedOut, d.inFlight, ?_⟩
      · simp [batchesFor_cons_self, d.calls]
      · exact Machine.get?_append_of_merged? d.buffer
    -- A call for another table changes neither the groups nor this buffer.
    · refine ⟨[], ?_, d.handedOut, d.inFlight, ?_⟩
      · simp [batchesFor_cons_other ht, d.calls]
      · simp [Machine.append, Dict.get?_insert, Ne.symm ht, d.buffer]

/-- A flush takes off with what waits. -/
theorem beginFlush (d : Division h table left aloft waiting)
    (hsorted : Dict.Sorted h.machine.buffers) (hidle : h.machine.phase = .idle) (t : Trigger)
    {order : List Batch} (hperm : order.Perm h.machine.snapshot) :
    Division (h.beginFlush t order) table left waiting [] := by
  -- At rest no group is in flight, so that the waiting one can take its place.
  have haloft : aloft = [] := d.aloft_eq_nil (by simp [hidle, Phase.inFlight])
  have hnd : (h.machine.snapshot.map (·.table)).Nodup := by
    rw [Machine.map_table_snapshot]
    exact hsorted.nodup_keys
  refine ⟨?_, d.handedOut, ?_, rfl⟩
  · simpa [haloft, History.beginFlush] using d.calls
  · calc
      batchesFor table (h.beginFlush t order).machine.phase.inFlight
          = batchesFor table order := by simp [History.beginFlush, Machine.beginFlushOf]
      _ = batchesFor table h.machine.snapshot := batchesFor_perm hnd hperm table
      _ = (merged? waiting).toList := d.snapshot hsorted

/-- The batch in front is what the calls in flight for its table gathered into. -/
theorem front (d : Division h table left aloft waiting) {last : Bool} {b : Batch}
    {rest : List Batch} (hphase : h.machine.phase = .flushing last b rest)
    (hb : b.table = table) : merged? aloft = some b ∧ batchesFor table rest = [] := by
  subst hb
  have hin := d.inFlight
  rw [hphase, Phase.inFlight_flushing, batchesFor_cons_self] at hin
  cases ha : merged? aloft with
  | none => simp [ha] at hin
  | some c =>
    simp only [ha, Option.toList_some, List.cons.injEq] at hin
    rcases hin with ⟨rfl, hrest⟩
    exact ⟨rfl, hrest⟩

/-- A delivery sends the group in front away. -/
theorem delivered (d : Division h table left aloft waiting) {last : Bool} {b : Batch}
    {rest : List Batch} (hphase : h.machine.phase = .flushing last b rest)
    (hb : b.table = table) : Division (h.resolve b true) table (left ++ [aloft]) [] waiting := by
  rcases d.front hphase hb with ⟨hmerged, hrest⟩
  have hmachine := History.machine_resolve hphase true
  subst hb
  refine ⟨?_, ?_, ?_, ?_⟩
  · simpa [History.resolve] using d.calls
  · simp [History.resolve, d.handedOut, batchesFor_cons_self, hmerged]
  · rw [hmachine, Phase.inFlight_delivering, hrest]
    rfl
  · rw [hmachine]
    exact d.buffer

/-- A refusal puts the group in front back before the one that waits. -/
theorem refused (d : Division h table left aloft waiting) {last : Bool} {b : Batch}
    {rest : List Batch} (hphase : h.machine.phase = .flushing last b rest)
    (hb : b.table = table) : Division (h.resolve b false) table left [] (aloft ++ waiting) := by
  rcases d.front hphase hb with ⟨hmerged, hrest⟩
  have hmachine := History.machine_resolve hphase false
  subst hb
  refine ⟨?_, d.handedOut, ?_, ?_⟩
  · simpa [History.resolve] using d.calls
  · rw [hmachine, Phase.inFlight_delivering, hrest]
    rfl
  · rw [hmachine]
    exact Machine.get?_restore_of_merged? hmerged d.buffer

/-- The answer to a batch for one table leaves the calls for the others where they are. -/
theorem resolve_other (d : Division h table left aloft waiting) {last : Bool} {b : Batch}
    {rest : List Batch} (hphase : h.machine.phase = .flushing last b rest)
    (hb : b.table ≠ table) (ok : Bool) : Division (h.resolve b ok) table left aloft waiting := by
  have hmachine := History.machine_resolve hphase ok
  refine ⟨d.calls, ?_, ?_, ?_⟩
  · cases ok with
    | true => simp [History.resolve, batchesFor_cons_other hb, d.handedOut]
    | false => exact d.handedOut
  · rw [hmachine, Phase.inFlight_delivering, ← d.inFlight, hphase, Phase.inFlight_flushing,
      batchesFor_cons_other hb]
  · rw [hmachine]
    cases ok with
    | true => exact d.buffer
    | false =>
      have hget := Dict.get?_insert h.machine.buffers b.table
      simp [Machine.restore, hget, Ne.symm hb, d.buffer]

/-- A drain at rest takes what waits behind all that left before. -/
theorem drain (d : Division h table left aloft waiting)
    (hsorted : Dict.Sorted h.machine.buffers) (hrest : h.machine.phase.inFlight = []) :
    Division h.drain table (left ++ [waiting]) [] [] := by
  have haloft : aloft = [] := d.aloft_eq_nil (by simp [hrest])
  refine ⟨?_, ?_, ?_, rfl⟩
  · simpa [haloft, History.drain] using d.calls
  · simp only [History.drain, Machine.drain, batchesFor_append, d.handedOut, d.snapshot hsorted,
      List.filterMap_append]
    cases hw : merged? waiting <;> simp [hw]
  · simp [History.drain, Machine.drain, hrest]

end Division

theorem Division.step {h h' : History} {table : String} (ht : Tidy h)
    (hd : ∃ left aloft waiting, Division h table left aloft waiting) (hs : Step true h h') :
    ∃ left aloft waiting, Division h' table left aloft waiting := by
  rcases hd with ⟨left, aloft, waiting, d⟩
  cases hs with
  | write call hne =>
    rcases d.write hne with ⟨more, d'⟩
    exact ⟨_, _, _, d'⟩
  | beginFlush t order hidle _ hperm => exact ⟨_, _, _, d.beginFlush ht.sorted hidle t hperm⟩
  | resolve last b rest delivered hphase =>
    -- The answer concerns no table but that of the batch in front.
    by_cases hb : b.table = table
    · cases delivered with
      | true => exact ⟨_, _, _, d.delivered hphase hb⟩
      | false => exact ⟨_, _, _, d.refused hphase hb⟩
    · exact ⟨_, _, _, d.resolve_other hphase hb delivered⟩
  | drain hrest => exact ⟨_, _, _, d.drain ht.sorted (hrest rfl)⟩

/-- As long as what waits is drained only at rest, the calls for a table stay divided. -/
theorem division_of_reachable {n : Nat} {h : History} (hr : Reachable true n h)
    (table : String) : ∃ left aloft waiting, Division h table left aloft waiting := by
  induction hr with
  | start => exact ⟨[], [], [], rfl, rfl, rfl, rfl⟩
  | step hr hs ih => exact Division.step (tidy_of_reachable hr) ih hs

/-! ## What the driver behind the buffers is given -/

theorem IsBlock.of_inFlight {n : Nat} {h : History} (hr : Reachable true n h) {b : Batch}
    (hb : b ∈ h.machine.phase.inFlight) : IsBlock h.accepted b := by
  rcases division_of_reachable hr b.table with ⟨left, aloft, waiting, d⟩
  have hin := d.inFlight
  rw [batchesFor_eq_of_mem (tidy_of_reachable hr).nodup hb] at hin
  cases ha : merged? aloft with
  | none => simp [ha] at hin
  | some c =>
    have hbc : b = c := by simpa [ha] using hin
    -- The group in flight lies between those that left and the one that waits.
    refine ⟨aloft, ⟨left.flatten, waiting, d.calls.symm⟩, ?_⟩
    rw [ha, hbc]

/-- Every batch that the driver behind the buffers has been given holds whole calls. -/
theorem IsBlock.of_attempt {n : Nat} {h : History} (hr : Reachable true n h) :
    ∀ b ∈ h.attempts, IsBlock h.accepted b := by
  induction hr with
  | start =>
    intro b hb
    cases hb
  | @step h _ hr hs ih =>
    cases hs with
    | write call hne =>
      cases hc : h.machine.closed with
      | true =>
        rw [History.write_of_closed hne hc]
        exact ih
      | false =>
        rw [History.write_of_open hne hc]
        intro b hb
        -- A further call at the end leaves every stretch of calls as it is.
        exact (ih b hb).extend call
    | beginFlush t order _ _ _ => exact ih
    | resolve last b rest delivered hphase =>
      intro c hc
      rcases List.mem_append.1 hc with hc | hc
      · exact ih c hc
      -- The batch that was answered has been in flight just before.
      · have hcb : c = b := by simpa using hc
        apply IsBlock.of_inFlight (h := h) hr
        simp [hphase, hcb]
    | drain _ => exact ih

/-! ## Drains at any time -/

/-- The rows for a table that the machine has let go, holds in flight or lets wait. -/
def History.accounted (h : History) (table : String) : List Row :=
  rowsFor table h.handedOut ++ rowsFor table h.machine.phase.inFlight ++
    h.machine.pendingRows table

/-- No step loses or doubles a row. -/
theorem Step.accounted_perm {h h' : History} {table : String} (ht : Tidy h)
    (hp : (rowsFor table h.accepted).Perm (h.accounted table)) (hs : Step false h h') :
    (rowsFor table h'.accepted).Perm (h'.accounted table) := by
  -- Unlike a division, the sum is the same whatever the order in which its parts stand.
  cases hs with
  | write call hne =>
    cases hc : h.machine.closed with
    | true =>
      rw [History.write_of_closed hne hc]
      exact hp
    | false =>
      rw [History.write_of_open hne hc]
      simp only [History.accounted, rowsFor_append, Machine.pendingRows_append,
        ← List.append_assoc]
      exact hp.append_right _
  | beginFlush t order hidle _ hperm =>
    have hnd : (h.machine.snapshot.map (·.table)).Nodup := by
      rw [Machine.map_table_snapshot]
      exact ht.sorted.nodup_keys
    have horder : rowsFor table order = h.machine.pendingRows table := by
      rw [rowsFor, batchesFor_perm hnd hperm, ← rowsFor, Machine.rowsFor_snapshot ht.sorted]
    have hsame : (h.beginFlush t order).accounted table = h.accounted table := by
      simp only [History.accounted, History.inFlight_beginFlush, History.pendingRows_beginFlush,
        horder, hidle, Phase.inFlight_idle, rowsFor_nil, List.append_nil]
      rfl
    exact hsame ▸ hp
  | resolve last b rest delivered hphase =>
    apply hp.trans
    simp only [History.accounted, History.inFlight_resolve hphase,
      History.pendingRows_resolve hphase, hphase, Phase.inFlight_flushing,
      rowsFor_cons table b rest]
    cases delivered with
    | true =>
      apply List.Perm.of_eq
      simp [History.resolve]
    | false =>
      -- The rows of the batch move behind those that are still in flight.
      simp only [History.resolve, Bool.false_eq_true, if_false, List.append_assoc]
      apply List.Perm.append_left _
      rw [← List.append_assoc, ← List.append_assoc]
      exact List.perm_append_comm.append_right _
  | drain _ =>
    apply hp.trans
    -- The drained rows move in front of those in flight.
    simp only [History.accounted, History.inFlight_drain, History.pendingRows_drain,
      List.append_nil, List.append_assoc]
    simp only [History.drain, Machine.drain, rowsFor_append, Machine.rowsFor_snapshot ht.sorted,
      List.append_assoc]
    exact List.Perm.append_left _ List.perm_append_comm

theorem accounted_perm_of_reachable {n : Nat} {h : History} (hr : Reachable false n h)
    (table : String) : (rowsFor table h.accepted).Perm (h.accounted table) := by
  induction hr with
  | start => exact List.Perm.nil
  | step hr hs ih => exact hs.accounted_perm (tidy_of_reachable hr) ih

/-! ## Conservation -/

/-- What was accepted for a table is what left, then what is in flight, then what waits, and the
driver behind the buffers is given whole consecutive calls. With drains during a flush the rows
are still the same, though maybe in another order. -/
theorem rows_conserved (maxBatchSize : Nat) (h : History) (table : String) :
    (Reachable true maxBatchSize h →
      rowsFor table h.accepted =
          rowsFor table h.handedOut ++ rowsFor table h.machine.phase.inFlight ++
            h.machine.pendingRows table ∧
        ∀ b ∈ h.attempts ++ h.machine.phase.inFlight, IsBlock h.accepted b) ∧
    (Reachable false maxBatchSize h →
      (rowsFor table h.accepted).Perm
        (rowsFor table h.handedOut ++ rowsFor table h.machine.phase.inFlight ++
          h.machine.pendingRows table)) := by
  refine ⟨fun hr => ⟨?_, ?_⟩, fun hr => accounted_perm_of_reachable hr table⟩
  · rcases division_of_reachable hr table with ⟨left, aloft, waiting, d⟩
    rw [d.rowsFor_handedOut, d.rowsFor_inFlight, d.pendingRows_eq, rowsFor, d.calls]
    simp
  · intro b hb
    rcases List.mem_append.1 hb with hb | hb
    · exact IsBlock.of_attempt hr b hb
    · exact IsBlock.of_inFlight hr hb

/-- A batch is refused while another call comes in, and then both are drained at rest. -/
theorem rows_conserved_after_refusal :
    let older : Batch := ⟨"t", .empty, [[("a", .null)]]⟩
    let newer : Batch := ⟨"t", .empty, [[("b", .null)]]⟩
    let h := (((((History.start 1).write older).beginFlush .wakeUp [older]).write newer).resolve
      older false).drain
    (Reachable true 1 h ∧ Reachable false 1 h) ∧
      (rowsFor "t" h.accepted =
          rowsFor "t" h.handedOut ++ rowsFor "t" h.machine.phase.inFlight ++
            h.machine.pendingRows "t" ∧
        ∀ b ∈ h.attempts ++ h.machine.phase.inFlight, IsBlock h.accepted b) ∧
      (rowsFor "t" h.accepted).Perm
        (rowsFor "t" h.handedOut ++ rowsFor "t" h.machine.phase.inFlight ++
          h.machine.pendingRows "t") := by
  intro older newer h
  have run : ∀ atRest, Reachable atRest 1 h := by
    intro atRest
    have h₁ : Reachable atRest 1 ((History.start 1).write older) :=
      .step .start (.write _ older (by simp [older]))
    have h₂ := Reachable.step h₁ (.beginFlush _ .wakeUp [older] rfl (fun _ => rfl) (.refl _))
    have h₃ := Reachable.step h₂ (.write _ newer (by simp [newer]))
    have h₄ := Reachable.step h₃ (.resolve _ false older [] false rfl)
    exact .step h₄ (.drain _ fun _ => rfl)
  have both := rows_conserved 1 h "t"
  exact ⟨⟨run true, run false⟩, both.1 (run true), both.2 (run false)⟩

end Batching
end Ingest
