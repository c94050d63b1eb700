import Ingest.Batching.Config
import Ingest.Batching.Machine
import Ingest.Driver.Basic

/-!
# Batching in time

A flush begins at regular times, when a buffer is full and when the driver is cancelled. Batches
take their time and take effect at its end. `Runner.runUntil` lets everything happen that is due
up to a time; `Runner.shutdown` waits for the last flush. Times are in milliseconds.
-/

namespace Ingest
namespace Batching

/-- The driver behind the buffers, and the time that a batch takes from a state on. -/
structure Inner (σ : Type) where
  driver : Driver (StateM σ)
  delay : Batch → σ → Nat

/-- A tick that is taken at most this much late does not move the later ones. -/
def tickTolerance : Nat := 5

/-- When the next tick is due, after one that was due and one that was taken at a time. Ticks that
were missed are left out. -/
def nextTick (interval due now : Nat) : Nat :=
  if due + tickTolerance < now then now + interval - (now - due) % interval
  else due + interval

theorem lt_nextTick {interval due now : Nat} (h : 0 < interval) (hdue : due ≤ now) :
    due < nextTick interval due now := by
  unfold nextTick
  have := Nat.mod_lt (now - due) h
  split <;> omega

/-- A batching driver with the time, the state of the driver behind it and its flush task. -/
structure Runner (σ : Type) where
  server : σ
  machine : Machine
  interval : Nat
  interval_pos : 0 < interval
  now : Nat := 0
  /-- When the next regular flush is due. -/
  due : Nat
  cancelled : Bool := false
  /-- When the batch that is being delivered is through. -/
  finish : Nat := 0

namespace Runner

variable {σ : Type}

/-- A batching driver with empty buffers. -/
def start (config : Config) (server : σ) : Outcome (Runner σ) :=
  match h : config.validate with
  | .error e => .error e
  | .ok () => .ok
    { server := server
      machine := { maxBatchSize := config.maxBatchSize }
      interval := config.flushIntervalMs
      interval_pos := Config.flushIntervalMs_pos_of_validate h
      due := config.flushIntervalMs }

/-! ## Flushing -/

def beginBatch (inner : Inner σ) (r : Runner σ) : Runner σ :=
  match r.machine.phase with
  | .flushing _ current _ => { r with finish := r.now + inner.delay current r.server }
  | _ => r

def beginFlush (inner : Inner σ) (last : Bool) (r : Runner σ) : Runner σ :=
  beginBatch inner { r with machine := r.machine.beginFlush last }

/-- Hands the current batch to the driver behind the buffers. -/
def handOver (inner : Inner σ) (b : Batch) (r : Runner σ) : Runner σ :=
  let written := (inner.driver.write b.table b.schema b.rows).run r.server
  { r with
    server := written.2
    machine := r.machine.resolve written.1.isOk }

def deliver (inner : Inner σ) (r : Runner σ) : Runner σ :=
  match r.machine.phase with
  | .flushing _ current _ => beginBatch inner (r.handOver inner current)
  | _ => r

/-- Does what the flush task does next at the present time: it ends the delivery of a batch that
is through, or it begins a flush for the first reason there is. -/
def act (inner : Inner σ) (r : Runner σ) : Option (Runner σ) :=
  match r.machine.phase with
  | .stopped => none
  | .flushing _ _ _ => if r.finish ≤ r.now then some (r.deliver inner) else none
  | .idle =>
    -- A cancellation goes before a tick and a tick before a full buffer.
    if r.cancelled then some (r.beginFlush inner true)
    else if r.due ≤ r.now then
      some (beginFlush inner false { r with due := nextTick r.interval r.due r.now })
    else if r.machine.wakeRequested then
      some (beginFlush inner false
        { r with machine := { r.machine with wakeRequested := false } })
    else none

def nextEvent (r : Runner σ) : Option Nat :=
  match r.machine.phase with
  | .stopped => none
  | .flushing _ _ _ => some r.finish
  | .idle => some r.due

/-! ## How long the flush task can go on -/

def flushesLeft (r : Runner σ) : Nat :=
  (r.now + 1 - r.due) + (if r.machine.wakeRequested then 1 else 0) +
    (if r.machine.phase.isOpen then 1 else 0)

def batchesLeft (r : Runner σ) : Nat :=
  r.machine.phase.inFlight.length

/-- The order in which the flush task comes to its end at the present time: the flushes that can
begin, then the batches in flight. -/
def Nearer (r' r : Runner σ) : Prop :=
  r'.now = r.now ∧
    (r'.flushesLeft < r.flushesLeft ∨
      r'.flushesLeft = r.flushesLeft ∧ r'.batchesLeft < r.batchesLeft)

theorem beginBatch_eq (inner : Inner σ) (r : Runner σ) :
    ∃ finish, r.beginBatch inner = { r with finish := finish } := by
  unfold beginBatch
  split
  · exact ⟨_, rfl⟩
  · exact ⟨r.finish, rfl⟩

theorem beginFlush_eq (inner : Inner σ) (last : Bool) (r : Runner σ) :
    ∃ finish, r.beginFlush inner last =
      { r with machine := r.machine.beginFlush last, finish := finish } :=
  beginBatch_eq inner _

theorem nearer_deliver {inner : Inner σ} {r : Runner σ} {last : Bool} {b : Batch}
    {rest : List Batch} (h : r.machine.phase = .flushing last b rest) :
    Nearer (r.deliver inner) r := by
  obtain ⟨finish, hf⟩ := beginBatch_eq inner (r.handOver inner b)
  have hd : r.deliver inner = { r.handOver inner b with finish := finish } := by
    rw [deliver, h, ← hf]
  rw [hd]
  refine ⟨rfl, .inr ⟨?_, ?_⟩⟩
  · simp only [flushesLeft, handOver, Machine.resolve, h]
    split
    · simp
    · simp [Machine.restore]
      rfl
  · simp only [batchesLeft, handOver, Machine.resolve, h]
    simp

theorem nearer_of_act {inner : Inner σ} {r r' : Runner σ} (h : r.act inner = some r') :
    Nearer r' r := by
  unfold act at h
  split at h
  · cases h
  · rename_i hphase
    split at h
    · cases h
      exact nearer_deliver hphase
    · cases h
  · rename_i hphase
    split at h
    · cases h
      -- The last flush closes the phase for good.
      obtain ⟨finish, hf⟩ := beginFlush_eq inner true r
      rw [hf]
      exact ⟨rfl, .inl (by
        simp [flushesLeft, Machine.beginFlush, Machine.beginFlushOf, hphase])⟩
    · split at h
      · rename_i hdue
        cases h
        -- A tick moves the next one forward.
        obtain ⟨finish, hf⟩ := beginFlush_eq inner false
          { r with due := nextTick r.interval r.due r.now }
        rw [hf]
        have := lt_nextTick r.interval_pos hdue
        exact ⟨rfl, .inl (by
          simp [flushesLeft, Machine.beginFlush, Machine.beginFlushOf, hphase]
          omega)⟩
      · split at h
        · rename_i hwake
          cases h
          -- A wake-up is used up.
          obtain ⟨finish, hf⟩ := beginFlush_eq inner false
            { r with machine := { r.machine with wakeRequested := false } }
          rw [hf]
          exact ⟨rfl, .inl (by
            simp [flushesLeft, Machine.beginFlush, Machine.beginFlushOf, hphase, hwake])⟩
        · cases h

theorem now_lt_of_nextEvent {inner : Inner σ} {r : Runner σ} {t : Nat}
    (hact : r.act inner = none) (ht : r.nextEvent = some t) : r.now < t := by
  unfold nextEvent at ht
  unfold act at hact
  split at ht
  · cases ht
  · rename_i hphase
    cases ht
    rw [hphase] at hact
    simpa using hact
  · rename_i hphase
    cases ht
    rw [hphase] at hact
    by_cases hc : r.cancelled
    · simp [hc] at hact
    · by_cases hd : r.due ≤ r.now
      · simp [hc, hd] at hact
      · omega

/-! ## Everything in its time -/

/-- Lets everything happen that is due up to a time, in order. -/
def runUntil (inner : Inner σ) (target : Nat) (r : Runner σ) : Runner σ :=
  match _hact : r.act inner with
  | some r' => runUntil inner target r'
  | none =>
    match _hevent : r.nextEvent with
    | none => { r with now := max r.now target }
    | some t =>
      if t ≤ target then runUntil inner target { r with now := t }
      else { r with now := max r.now target }
termination_by (target - r.now, r.flushesLeft, r.batchesLeft)
decreasing_by
  · obtain ⟨hnow, hlt | ⟨heq, hlt⟩⟩ := nearer_of_act _hact
    · rw [hnow]
      exact .right _ (.left _ _ hlt)
    · rw [hnow, heq]
      exact .right _ (.right _ hlt)
  · have := now_lt_of_nextEvent _hact _hevent
    exact .left _ _ (by omega)

def settle (inner : Inner σ) (r : Runner σ) : Runner σ :=
  runUntil inner r.now r

def deliverAll (inner : Inner σ) : List Batch → Runner σ → Runner σ
  | [], r => deliver inner { r with now := max r.now r.finish }
  | _ :: rest, r => deliverAll inner rest (deliver inner { r with now := max r.now r.finish })

def finishFlush (inner : Inner σ) (r : Runner σ) : Runner σ :=
  match r.machine.phase with
  | .flushing _ _ rest => deliverAll inner rest r
  | _ => r

def cancel (r : Runner σ) : Runner σ :=
  { r with cancelled := true }

def shutdown (inner : Inner σ) (r : Runner σ) : Runner σ :=
  let r := finishFlush inner r.cancel
  match r.machine.phase with
  | .idle => finishFlush inner (beginFlush inner true r)
  | _ => r

/-! ## Operations -/

/-- An operation of the driver behind the buffers. -/
def onServer {α : Type} (x : StateM σ α) : StateM (Runner σ) α := fun r =>
  let (a, server) := x.run r.server
  (a, { r with server := server })

def write (table : String) (schema : Schema) (rows : List Row) :
    ExceptT Failure (StateM (Runner σ)) Unit :=
  ExceptT.mk fun r =>
    let (result, machine) := r.machine.write table schema rows
    (result, { r with machine := machine })

def drain : StateM (Runner σ) (List Batch) := fun r =>
  let (batches, machine) := r.machine.drain
  (batches, { r with machine := machine })

/-- The batching driver: rows wait, and all else goes to the driver behind the buffers. -/
def driver (inner : Inner σ) : Driver (StateM (Runner σ)) :=
  { inner.driver.lift onServer with
    write := write }

end Runner
end Batching
end Ingest
