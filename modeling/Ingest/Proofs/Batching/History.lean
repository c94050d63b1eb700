import Ingest.Batching.Machine
import Ingest.Proofs.Dict

/-!
# Histories of the batching machine

A history is a machine together with what has happened to it: the calls that were accepted, the
batches that the driver behind the buffers was given, and the batches that left for good. `Step`
lists everything that can happen next, in any order: producers write, a flush begins and takes the
tables in any order, the batch in front is delivered or refused, and what waits is drained.
`Reachable` collects the histories that steps lead to. This module also says, step by step, what
becomes of the waiting rows and of the rows in flight of each table.
-/

namespace Ingest
namespace Batching

/-! ## Rows of a table -/

/-- The batches for a table. -/
def batchesFor (table : String) (batches : List Batch) : List Batch :=
  batches.filter fun b => b.table == table

def rowsOf (batches : List Batch) : List Row :=
  batches.flatMap fun b => b.rows

/-- The rows for a table, batch by batch. -/
def rowsFor (table : String) (batches : List Batch) : List Row :=
  rowsOf (batchesFor table batches)

@[simp] theorem rowsOf_nil : rowsOf [] = [] := rfl

@[simp] theorem rowsOf_cons (b : Batch) (bs : List Batch) :
    rowsOf (b :: bs) = b.rows ++ rowsOf bs := rfl

@[simp] theorem rowsOf_append (as bs : List Batch) :
    rowsOf (as ++ bs) = rowsOf as ++ rowsOf bs :=
  List.flatMap_append

@[simp] theorem batchesFor_nil (table : String) : batchesFor table [] = [] := rfl

@[simp] theorem batchesFor_append (table : String) (as bs : List Batch) :
    batchesFor table (as ++ bs) = batchesFor table as ++ batchesFor table bs :=
  List.filter_append as bs

theorem batchesFor_cons_self (b : Batch) (bs : List Batch) :
    batchesFor b.table (b :: bs) = b :: batchesFor b.table bs := by
  simp [batchesFor]

theorem batchesFor_cons_other {table : String} {b : Batch} (h : b.table ≠ table)
    (bs : List Batch) : batchesFor table (b :: bs) = batchesFor table bs := by
  simp [batchesFor, h]

theorem batchesFor_eq_nil {table : String} {bs : List Batch}
    (h : table ∉ bs.map (·.table)) : batchesFor table bs = [] := by
  apply List.filter_eq_nil_iff.2
  intro b hb heq
  exact h (List.mem_map.2 ⟨b, hb, by simpa using heq⟩)

@[simp] theorem rowsFor_nil (table : String) : rowsFor table [] = [] := rfl

@[simp] theorem rowsFor_append (table : String) (as bs : List Batch) :
    rowsFor table (as ++ bs) = rowsFor table as ++ rowsFor table bs := by
  simp [rowsFor]

theorem rowsFor_cons (table : String) (b : Batch) (bs : List Batch) :
    rowsFor table (b :: bs) = rowsFor table [b] ++ rowsFor table bs :=
  rowsFor_append table [b] bs

theorem rowsFor_cons_self (b : Batch) (bs : List Batch) :
    rowsFor b.table (b :: bs) = b.rows ++ rowsFor b.table bs := by
  simp [rowsFor, batchesFor_cons_self]

theorem rowsFor_cons_other {table : String} {b : Batch} (h : b.table ≠ table)
    (bs : List Batch) : rowsFor table (b :: bs) = rowsFor table bs := by
  simp [rowsFor, batchesFor_cons_other h]

/-- Where no table occurs twice, a batch is the only one for its table. -/
theorem batchesFor_eq_of_mem {bs : List Batch} (hnd : (bs.map (·.table)).Nodup) {b : Batch}
    (hb : b ∈ bs) : batchesFor b.table bs = [b] := by
  induction bs with
  | nil => cases hb
  | cons c rest ih =>
    rcases List.nodup_cons.1 hnd with ⟨hc, hrest⟩
    rcases List.mem_cons.1 hb with rfl | hb
    · rw [batchesFor_cons_self, batchesFor_eq_nil hc]
    -- The batch stands further back, and no other has its table.
    · have hne : c.table ≠ b.table := by
        intro heq
        exact hc (List.mem_map.2 ⟨b, hb, heq.symm⟩)
      rw [batchesFor_cons_other hne, ih hrest hb]

/-- Where no table occurs twice, the batches for a table do not depend on the order. -/
theorem batchesFor_perm {as bs : List Batch} (hnd : (as.map (·.table)).Nodup) (hp : bs.Perm as)
    (table : String) : batchesFor table bs = batchesFor table as := by
  have hnd' : (bs.map (·.table)).Nodup := (hp.map _).nodup_iff.2 hnd
  -- With distinct tables there is one batch or none, in any order.
  by_cases hmem : table ∈ as.map (·.table)
  · rcases List.mem_map.1 hmem with ⟨b, hb, rfl⟩
    rw [batchesFor_eq_of_mem hnd hb, batchesFor_eq_of_mem hnd' (hp.mem_iff.2 hb)]
  · have hmem' : table ∉ bs.map (·.table) := by
      intro h
      exact hmem ((hp.map _).mem_iff.1 h)
    rw [batchesFor_eq_nil hmem, batchesFor_eq_nil hmem']

namespace Machine

/-! ## Calls and answers -/

theorem write_of_closed {m : Machine} {c : Batch} (hclosed : m.closed = true)
    (hne : c.rows ≠ []) : m.write c.table c.schema c.rows = (.error .driverClosed, m) := by
  simp [write, hclosed, hne]

theorem resolve_of_flushing {m : Machine} {last : Bool} {b : Batch} {rest : List Batch}
    (hphase : m.phase = .flushing last b rest) (delivered : Bool) :
    m.resolve delivered =
      { (if delivered then m else m.restore b) with phase := .delivering last rest } := by
  simp [resolve, hphase]

/-! ## Waiting rows -/

@[simp] theorem map_table_snapshot (m : Machine) :
    m.snapshot.map (·.table) = m.buffers.map (·.1) := by
  simp [snapshot, Function.comp_def]

theorem pendingRows_append (call : Batch) (m : Machine) (table : String) :
    (m.append call.table call.schema call.rows).pendingRows table =
      m.pendingRows table ++ rowsFor table [call] := by
  by_cases h : call.table = table
  · subst h
    simp [append, pendingRows, Dict.get?_insert, rowsFor_cons_self]
  · simp [append, pendingRows, Dict.get?_insert, Ne.symm h, rowsFor_cons_other h]

theorem pendingRows_restore (b : Batch) (m : Machine) (table : String) :
    (m.restore b).pendingRows table = rowsFor table [b] ++ m.pendingRows table := by
  by_cases h : b.table = table
  · subst h
    simp [restore, pendingRows, Dict.get?_insert, rowsFor_cons_self]
  · simp [restore, pendingRows, Dict.get?_insert, Ne.symm h, rowsFor_cons_other h]

/-- A flush or a drain takes the buffer of a table as one batch. -/
theorem batchesFor_snapshot {m : Machine} (hs : Dict.Sorted m.buffers) (table : String) :
    batchesFor table m.snapshot =
      ((Dict.get? m.buffers table).map fun b => ⟨table, b.schema, b.rows⟩).toList := by
  rcases m with ⟨size, buffers, closed, wake, phase⟩
  simp only [snapshot] at hs ⊢
  induction buffers with
  | nil => rfl
  | cons e rest ih =>
    rcases e with ⟨k, buffer⟩
    have hrest : Dict.Sorted rest := (List.pairwise_cons.1 hs).2
    by_cases hk : k = table
    · subst hk
      -- Keys are distinct, so that no other buffer belongs to the table.
      have habsent : k ∉ rest.map (·.1) := (List.nodup_cons.1 hs.nodup_keys).1
      simp only [List.map_cons, Dict.get?, if_true]
      rw [batchesFor_cons_self ⟨k, buffer.schema, buffer.rows⟩, ih hrest,
        Dict.get?_eq_none_of_not_mem habsent]
      rfl
    · simp only [List.map_cons, Dict.get?, if_neg hk]
      rw [batchesFor_cons_other hk, ih hrest]

theorem rowsFor_snapshot {m : Machine} (hs : Dict.Sorted m.buffers) (table : String) :
    rowsFor table m.snapshot = m.pendingRows table := by
  rw [rowsFor, batchesFor_snapshot hs, pendingRows]
  cases Dict.get? m.buffers table <;> simp

/-! ## Buffers in order -/

theorem sorted_append {m : Machine} (hs : Dict.Sorted m.buffers) (table : String)
    (schema : Schema) (rows : List Row) : Dict.Sorted (m.append table schema rows).buffers :=
  Dict.sorted_insert hs table _

theorem sorted_restore {m : Machine} (hs : Dict.Sorted m.buffers) (b : Batch) :
    Dict.Sorted (m.restore b).buffers :=
  Dict.sorted_insert hs b.table _

end Machine

/-! ## Steps -/

/-- Why a flush begins. -/
inductive Trigger where
  | tick
  /-- A buffer is full. -/
  | wakeUp
  | cancellation

namespace Trigger

/-- After a cancellation no other flush follows. -/
def isLast : Trigger → Bool
  | cancellation => true
  | _ => false

/-- A flush that begins because it was asked for uses up the request. -/
def acknowledge : Trigger → Machine → Machine
  | wakeUp, m => { m with wakeRequested := false }
  | _, m => m

end Trigger

/-- A machine and what has happened to it. -/
structure History where
  machine : Machine
  /-- The calls whose rows were accepted. -/
  accepted : List Batch := []
  /-- The batches that the driver behind the buffers was given and has answered. -/
  attempts : List Batch := []
  /-- The batches that left the machine, delivered or drained. -/
  handedOut : List Batch := []

namespace History

/-- The history of a new machine. -/
def start (maxBatchSize : Nat) : History :=
  { machine := { maxBatchSize := maxBatchSize } }

/-- A call of a producer. -/
def write (call : Batch) (h : History) : History :=
  let written := h.machine.write call.table call.schema call.rows
  { h with
    machine := written.2
    accepted := if written.1.isOk then h.accepted ++ [call] else h.accepted }

/-- The beginning of a flush that takes the batches in the given order. -/
def beginFlush (t : Trigger) (order : List Batch) (h : History) : History :=
  { h with machine := (t.acknowledge h.machine).beginFlushOf t.isLast order }

/-- The answer to the batch in front. -/
def resolve (b : Batch) (delivered : Bool) (h : History) : History :=
  { h with
    machine := h.machine.resolve delivered
    attempts := h.attempts ++ [b]
    handedOut := if delivered then h.handedOut ++ [b] else h.handedOut }

/-- The owner takes what waits. -/
def drain (h : History) : History :=
  { h with
    machine := h.machine.drain.2
    handedOut := h.handedOut ++ h.machine.drain.1 }

/-! ## What an operation leaves -/

theorem write_of_closed {call : Batch} {h : History} (hne : call.rows ≠ [])
    (hc : h.machine.closed = true) : h.write call = h := by
  simp [write, Machine.write_of_closed hc hne, Except.isOk, Except.toBool]

theorem write_of_open {call : Batch} {h : History} (hne : call.rows ≠ [])
    (hc : h.machine.closed = false) :
    h.write call =
      { h with
        machine := h.machine.append call.table call.schema call.rows
        accepted := h.accepted ++ [call] } := by
  simp [write, Machine.write, hne, hc, Except.isOk, Except.toBool]

@[simp] theorem inFlight_beginFlush (t : Trigger) (order : List Batch) (h : History) :
    (h.beginFlush t order).machine.phase.inFlight = order := by
  simp [beginFlush, Machine.beginFlushOf]

@[simp] theorem pendingRows_beginFlush (t : Trigger) (order : List Batch) (h : History)
    (table : String) : (h.beginFlush t order).machine.pendingRows table = [] :=
  rfl

theorem machine_resolve {h : History} {last : Bool} {b : Batch} {rest : List Batch}
    (hphase : h.machine.phase = .flushing last b rest) (delivered : Bool) :
    (h.resolve b delivered).machine =
      { (if delivered then h.machine else h.machine.restore b) with
        phase := .delivering last rest } :=
  Machine.resolve_of_flushing hphase delivered

theorem inFlight_resolve {h : History} {last : Bool} {b : Batch} {rest : List Batch}
    (hphase : h.machine.phase = .flushing last b rest) (delivered : Bool) :
    (h.resolve b delivered).machine.phase.inFlight = rest := by
  rw [machine_resolve hphase]
  simp

theorem pendingRows_resolve {h : History} {last : Bool} {b : Batch} {rest : List Batch}
    (hphase : h.machine.phase = .flushing last b rest) (delivered : Bool) (table : String) :
    (h.resolve b delivered).machine.pendingRows table =
      (if delivered then [] else rowsFor table [b]) ++ h.machine.pendingRows table := by
  rw [machine_resolve hphase]
  cases delivered with
  | true => rfl
  | false => exact Machine.pendingRows_restore b h.machine table

@[simp] theorem inFlight_drain (h : History) :
    h.drain.machine.phase.inFlight = h.machine.phase.inFlight := rfl

@[simp] theorem pendingRows_drain (h : History) (table : String) :
    h.drain.machine.pendingRows table = [] := rfl

end History

/-- Everything that can happen next. If `atRest` holds, what waits is drained only while no flush
is in progress. -/
inductive Step (atRest : Bool) : History → History → Prop
  | write (h : History) (call : Batch) :
      call.rows ≠ [] → Step atRest h (h.write call)
  | beginFlush (h : History) (t : Trigger) (order : List Batch) :
      h.machine.phase = .idle → (t = .wakeUp → h.machine.wakeRequested = true) →
        order.Perm h.machine.snapshot → Step atRest h (h.beginFlush t order)
  | resolve (h : History) (last : Bool) (b : Batch) (rest : List Batch) (delivered : Bool) :
      h.machine.phase = .flushing last b rest → Step atRest h (h.resolve b delivered)
  | drain (h : History) :
      (atRest = true → h.machine.phase.inFlight = []) → Step atRest h h.drain

/-- The histories of a machine that steps lead to. -/
inductive Reachable (atRest : Bool) (maxBatchSize : Nat) : History → Prop
  | start : Reachable atRest maxBatchSize (.start maxBatchSize)
  | step {h h' : History} :
      Reachable atRest maxBatchSize h → Step atRest h h' → Reachable atRest maxBatchSize h'

end Batching
end Ingest
