import Ingest.Arrow.Interchange
import Ingest.Calendar.Instant
import Ingest.Value.Basic

/-!
# Record batches

A batch holds columns of one length. What a slot of a column holds follows from the type of the
column: `Content` gives the content of a slot that is not null. `Batch.toRows` turns a batch into
rows, column by column, and fails at the first slot without a value.
-/

namespace Ingest
namespace Arrow

/-! ## Slots -/

mutual

/-- The content of a slot that is not null. Of types without neutral form nothing is kept. -/
def Content : ArrowType → Type
  | .bool => Bool
  | .int32 => Int32
  | .int64 => Int64
  | .float32 => UInt32
  | .float64 => UInt64
  | .date32 => Int32
  | .timestamp _ _ => Int64
  | .utf8 _ => String
  | .binary _ => List UInt8
  | .list _ ⟨_, type, _, _⟩ => List (Option (Content type))
  | .struct fields => Members fields
  | .foreign _ => Unit
  | .dictionary _ _ => Unit

/-- One slot for each field of a struct. -/
def Members : List ArrowField → Type
  | [] => Unit
  | ⟨_, type, _, _⟩ :: rest => Option (Content type) × Members rest

end

/-- A slot of a column, null or with content. -/
abbrev Slot (t : ArrowType) : Type := Option (Content t)

/-- The slot of a missing value. A column of the null type does not mark its slots as null. -/
def missing : (t : ArrowType) → Slot t
  | .foreign .null => some ()
  | _ => none

/-! ## Values -/

/-- The sum of two numbers of 32 bits, unless it needs more. -/
def checkedAdd (a b : Int32) : Option Int32 :=
  let sum := a.toInt + b.toInt
  if Int32.minValue.toInt ≤ sum ∧ sum ≤ Int32.maxValue.toInt then some (a + b) else none

/-- The instant of a number of units since the epoch, if it is supported. One that is counted in
nanoseconds always is. -/
def instantAt (unit : TimeUnit) (count : Int64) : Option Calendar.Instant :=
  match unit with
  | .nanosecond => some (.ofUnixNanos count)
  | .second | .millisecond | .microsecond =>
    let perSecond : Int := pow10 unit.precision
    Calendar.Instant.ofUnix? (count.toInt / perSecond)
      ((count.toInt % perSecond).toNat * pow10 (9 - unit.precision))

def outOfRange (count : Int) (target : String) : Failure :=
  .valueOutOfRange (Text.intText count) target

def dateValue (days : Int32) : Outcome Value :=
  match (checkedAdd days Calendar.Date.epochOrdinal).bind Calendar.Date.ofOrdinal? with
  | some d => .ok (.date d)
  | none => .error (outOfRange days.toInt "date32")

def timestampValue (unit : TimeUnit) (count : Int64) : Outcome Value :=
  match instantAt unit count with
  | some t => .ok (.timestamp t)
  | none => .error (outOfRange count.toInt "timestamp")

/-- The value of a slot, given the value of its content; null has the value null. -/
def orNull {α : Type} (value : α → Outcome Value) : Option α → Outcome Value
  | none => .ok .null
  | some a => value a

mutual

def contentValue : (t : ArrowType) → Content t → Outcome Value
  | .bool, b => .ok (.bool b)
  | .int32, n => .ok (.int32 n)
  | .int64, n => .ok (.int64 n)
  | .float32, bits => .ok (.float32 bits)
  | .float64, bits => .ok (.float64 bits)
  | .date32, days => dateValue days
  | .timestamp unit _, count => timestampValue unit count
  | .utf8 _, s => .ok (.string s)
  | .binary _, bytes => .ok (.binary bytes)
  | .list _ ⟨_, type, _, _⟩, items => (items.mapM (orNull (contentValue type))).map .list
  | .struct fields, members =>
    (memberValues fields members).map fun ms => .struct (Dict.ofList ms)
  | .foreign type, _ => unsupported (.foreign type)
  | .dictionary key value, _ => unsupported (.dictionary key value)

def memberValues : (fields : List ArrowField) → Members fields → Outcome (List (String × Value))
  | [], _ => .ok []
  | ⟨name, type, _, _⟩ :: rest, (slot, slots) => do
    let v ← orNull (contentValue type) slot
    let vs ← memberValues rest slots
    return (name, v) :: vs

end

def slotValue (t : ArrowType) (slot : Slot t) : Outcome Value :=
  orNull (contentValue t) slot

/-! ## Batches -/

/-- A column of a length. -/
structure Column (length : Nat) where
  field : ArrowField
  slots : List (Slot field.type)
  length_slots : slots.length = length

/-- Columns of one length. -/
structure Batch where
  numRows : Nat
  columns : List (Column numRows)

namespace Column

variable {n : Nat}

def values (c : Column n) : Outcome (List Value) :=
  c.slots.mapM (slotValue c.field.type)

def slice (c : Column n) (offset length : Nat) : Column (min length (n - offset)) where
  field := c.field
  slots := (c.slots.drop offset).take length
  length_slots := by simp [c.length_slots]

end Column

namespace Batch

def schema (b : Batch) : ArrowSchema :=
  ⟨b.columns.map (·.field), ∅⟩

/-- The rows from an offset on, at most as many as given. -/
def slice (b : Batch) (offset length : Nat) : Batch where
  numRows := min length (b.numRows - offset)
  columns := b.columns.map fun c => c.slice offset length

def insertColumn {n : Nat} (rows : List Row) (c : Column n) : Outcome (List Row) :=
  c.values.map (List.zipWith (fun row v => Dict.insert row c.field.name v) rows)

/-- The rows of a batch, each with a value for every column; of two columns with one name the
later counts. -/
def toRows (b : Batch) : Outcome (List Row) :=
  b.columns.foldlM insertColumn (List.replicate b.numRows [])

end Batch
end Arrow
end Ingest
