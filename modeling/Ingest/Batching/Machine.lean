import Ingest.Driver.Basic

/-!
# Batching

Rows that are written wait in a buffer of their table. A flush takes all buffers at once and
hands them over one after the other, while new rows gather in new buffers. What could not be
delivered is put back in front of the rows that came later. The last flush closes the machine; what
it could not deliver stays and can be drained.

`Machine` holds the state without the time: `write`, `beginFlush`, `resolve` and `drain` are its
transitions.
-/

namespace Ingest
namespace Batching

/-- The waiting rows of one table, with the schema of the latest write. -/
structure Buffer where
  schema : Schema
  rows : List Row

/-- Where the flushing stands. -/
inductive Phase where
  /-- No flush is in progress. -/
  | idle
  /-- A batch is being delivered and others follow; afterwards all is over if it is the last
  flush. -/
  | flushing (last : Bool) (current : Batch) (rest : List Batch)
  /-- The last flush is over. -/
  | stopped

namespace Phase

def delivering (last : Bool) : List Batch → Phase
  | [] => if last then stopped else idle
  | b :: rest => flushing last b rest

def inFlight : Phase → List Batch
  | flushing _ current rest => current :: rest
  | _ => []

def isOpen : Phase → Bool
  | idle => true
  | flushing last _ _ => !last
  | stopped => false

@[simp] theorem isOpen_idle : idle.isOpen = true := rfl

@[simp] theorem isOpen_flushing (last : Bool) (current : Batch) (rest : List Batch) :
    (flushing last current rest).isOpen = !last := rfl

@[simp] theorem isOpen_delivering (last : Bool) (batches : List Batch) :
    (delivering last batches).isOpen = !last := by
  cases batches <;> cases last <;> rfl

@[simp] theorem inFlight_idle : idle.inFlight = [] := rfl

@[simp] theorem inFlight_flushing (last : Bool) (current : Batch) (rest : List Batch) :
    (flushing last current rest).inFlight = current :: rest := rfl

@[simp] theorem inFlight_delivering (last : Bool) (batches : List Batch) :
    (delivering last batches).inFlight = batches := by
  cases batches <;> cases last <;> rfl

end Phase

/-- The state of a batching driver. -/
structure Machine where
  maxBatchSize : Nat
  /-- The buffers by table; none is empty. -/
  buffers : List (String × Buffer) := []
  /-- No rows are accepted any more. -/
  closed : Bool := false
  /-- A buffer has become full. -/
  wakeRequested : Bool := false
  phase : Phase := .idle

namespace Machine

/-! ## Looking -/

def pendingRows (m : Machine) (table : String) : List Row :=
  ((Dict.get? m.buffers table).map (·.rows)).getD []

def pendingTables (m : Machine) : Nat :=
  m.buffers.length

/-- The buffers as batches, in the order of the tables. -/
def snapshot (m : Machine) : List Batch :=
  m.buffers.map fun b => ⟨b.1, b.2.schema, b.2.rows⟩

/-! ## Transitions -/

/-- Lets rows wait behind those of their table. -/
def append (table : String) (schema : Schema) (rows : List Row) (m : Machine) : Machine :=
  let waiting := m.pendingRows table ++ rows
  { m with
    buffers := Dict.insert m.buffers table ⟨schema, waiting⟩
    wakeRequested := m.wakeRequested || decide (m.maxBatchSize ≤ waiting.length) }

/-- Accepts rows unless the machine is closed; no rows change nothing. -/
def write (table : String) (schema : Schema) (rows : List Row) (m : Machine) :
    Outcome Unit × Machine :=
  if rows.isEmpty then (.ok (), m)
  else if m.closed then (.error .driverClosed, m)
  else (.ok (), m.append table schema rows)

/-- Begins a flush that delivers batches in the given order, which hold what waits. -/
def beginFlushOf (last : Bool) (batches : List Batch) (m : Machine) : Machine :=
  { m with
    buffers := []
    closed := m.closed || last
    phase := .delivering last batches }

def beginFlush (last : Bool) (m : Machine) : Machine :=
  m.beginFlushOf last m.snapshot

/-- Puts a batch back in front of what waits; the schema of later rows stays. -/
def restore (b : Batch) (m : Machine) : Machine :=
  -- Rows that came in the meantime were written with a newer schema.
  let schema := ((Dict.get? m.buffers b.table).map (·.schema)).getD b.schema
  { m with
    buffers := Dict.insert m.buffers b.table ⟨schema, b.rows ++ m.pendingRows b.table⟩ }

def resolve (delivered : Bool) (m : Machine) : Machine :=
  match m.phase with
  | .flushing last current rest =>
    { (if delivered then m else m.restore current) with phase := .delivering last rest }
  | _ => m

def drain (m : Machine) : List Batch × Machine :=
  (m.snapshot, { m with buffers := [] })

end Machine
end Batching
end Ingest
