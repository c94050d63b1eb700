import Ingest.Batching.Schedule
import Ingest.Proofs.Batching.Conservation
import Mathlib.Data.List.Forall2

/-!
# Calls in groups

A run of a batching driver for one table, as its turns in any order: calls, flushes that begin, and
deliveries that end (`Turn`). `Grouping` tells which calls each batch gathers, and which groups of
calls were delivered. A batching driver in front of a driver that sends rows, or refuses them,
keeps to it (`Simulates`).
-/

namespace Ingest
namespace Batching

/-! ## Turns -/

/-- What can happen next: a call, the beginning of a flush unless one is in progress, and the end
of a delivery. -/
inductive Turn where
  | call (schema : Schema) (rows : List Row)
  | flush
  | deliver

namespace Turn

/-- The calls of a run. -/
def calls (table : String) (turns : List Turn) : List Batch :=
  turns.filterMap fun
    | call schema rows => some ⟨table, schema, rows⟩
    | _ => none

end Turn

namespace Runner

variable {σ : Type}

/-- A batching driver takes a turn. -/
def turn (inner : Inner σ) (table : String) (r : Runner σ) : Turn → Runner σ
  | .call schema rows => (((driver inner).write table schema rows).run r).2
  | .flush =>
    match r.machine.phase with
    | .idle => r.beginFlush inner false
    | _ => r
  | .deliver => r.deliver inner

/-- A batching driver takes turns. -/
def run (inner : Inner σ) (table : String) (turns : List Turn) (r : Runner σ) : Runner σ :=
  turns.foldl (turn inner table) r

end Runner

/-! ## Groups -/

/-- The calls of a run in groups: those that were delivered together, those in flight and those
that wait. -/
structure Grouping where
  delivered : List (List Batch) := []
  aloft : List Batch := []
  waiting : List Batch := []

namespace Grouping

variable {P : Type}

/-- A call waits behind the others; one without rows leaves no trace. -/
def call (b : Batch) (g : Grouping) : Grouping :=
  if b.rows.isEmpty then g else { g with waiting := g.waiting ++ [b] }

/-- What waits takes off, unless a group is in flight. -/
def flush (g : Grouping) : Grouping :=
  match g.aloft with
  | [] => ⟨g.delivered, g.waiting, []⟩
  | _ => g

/-- The group in flight is sent under the schema of its newest call, or waits again in front of the
others. -/
def deliver (sends : Schema → List Row → Outcome P) (g : Grouping) : Grouping :=
  match merged? g.aloft with
  | none => g
  | some b =>
    match sends b.schema b.rows with
    | .ok _ => { g with delivered := g.delivered ++ [g.aloft], aloft := [] }
    | .error _ => { g with aloft := [], waiting := g.aloft ++ g.waiting }

def turn (sends : Schema → List Row → Outcome P) (table : String) (g : Grouping) :
    Turn → Grouping
  | .call schema rows => g.call ⟨table, schema, rows⟩
  | .flush => g.flush
  | .deliver => g.deliver sends

/-- The groups after a run. -/
def run (sends : Schema → List Row → Outcome P) (table : String) (turns : List Turn) : Grouping :=
  turns.foldl (turn sends table) {}

/-- The groups after the last flush. -/
def shutdown (sends : Schema → List Row → Outcome P) (g : Grouping) : Grouping :=
  (g.deliver sends).flush.deliver sends

/-- All calls of the groups, in order. -/
def calls (g : Grouping) : List Batch :=
  g.delivered.flatten ++ g.aloft ++ g.waiting

variable {sends : Schema → List Row → Outcome P}

/-! ### No call is lost or moved -/

@[simp] theorem calls_flush (g : Grouping) : g.flush.calls = g.calls := by
  unfold flush
  split
  · rename_i h
    simp [calls, h]
  · rfl

@[simp] theorem calls_deliver (g : Grouping) : (g.deliver sends).calls = g.calls := by
  unfold deliver
  split
  · rfl
  · split <;> simp [calls]

theorem calls_turn (g : Grouping) (table : String) (t : Turn) :
    (g.turn sends table t).calls =
      g.calls ++ (Turn.calls table [t]).filter fun b => !b.rows.isEmpty := by
  cases t with
  | call schema rows =>
    cases rows with
    | nil => simp [turn, call, Turn.calls]
    | cons row rest => simp [turn, call, calls, Turn.calls]
  | flush => simp [turn, Turn.calls]
  | deliver => simp [turn, Turn.calls]

/-- The groups hold all calls with rows. -/
theorem calls_run (table : String) (turns : List Turn) :
    (run sends table turns).calls =
      (Turn.calls table turns).filter fun b => !b.rows.isEmpty := by
  -- The induction on the turns is about any groups that were there before.
  have hrun : ∀ g : Grouping, (turns.foldl (turn sends table) g).calls =
      g.calls ++ (Turn.calls table turns).filter fun b => !b.rows.isEmpty := by
    induction turns with
    | nil => simp [Turn.calls]
    | cons t rest ih =>
      intro g
      have hcalls : Turn.calls table (t :: rest) =
          Turn.calls table [t] ++ Turn.calls table rest := by
        cases t <;> rfl
      rw [List.foldl_cons, ih, calls_turn, List.append_assoc, ← List.filter_append, hcalls]
  exact hrun {}

theorem aloft_deliver (g : Grouping) : (g.deliver sends).aloft = [] := by
  unfold deliver
  split
  · rename_i h
    exact eq_nil_of_merged?_eq_none h
  · split <;> rfl

theorem aloft_shutdown (g : Grouping) : (g.shutdown sends).aloft = [] :=
  aloft_deliver _

/-- After the last flush every call was delivered or waits. -/
theorem calls_shutdown (table : String) (turns : List Turn) :
    let g := (run sends table turns).shutdown sends
    g.delivered.flatten ++ g.waiting =
      (Turn.calls table turns).filter fun b => !b.rows.isEmpty := by
  intro g
  have hcalls : g.calls = (run sends table turns).calls := by
    simp [g, shutdown]
  have hrun : (run sends table turns).calls =
      (Turn.calls table turns).filter fun b => !b.rows.isEmpty := calls_run table turns
  rw [← hrun, ← hcalls, calls, aloft_shutdown, List.append_nil]

theorem waiting_flush {g : Grouping} (haloft : g.aloft = []) : g.flush.waiting = [] := by
  simp [flush, haloft]

/-- What waits after the last flush was refused in it. -/
theorem waiting_shutdown (g : Grouping) :
    (g.shutdown sends).waiting = [] ∨
      ∃ b e, merged? (g.shutdown sends).waiting = some b ∧ sends b.schema b.rows = .error e := by
  have hnone : ((g.deliver sends).flush).waiting = [] := waiting_flush g.aloft_deliver
  unfold shutdown
  -- The last flush takes everything along, so that only what comes back can wait.
  generalize (g.deliver sends).flush = g' at hnone
  unfold deliver
  split
  · exact .inl hnone
  · rename_i b hb
    cases he : sends b.schema b.rows with
    | ok p => exact .inl hnone
    | error e =>
      refine .inr ⟨b, e, ?_, he⟩
      simpa [hnone] using hb

end Grouping

/-! ## The batching driver keeps to its groups -/

variable {σ P : Type}

/-- A driver that sends rows as payloads, of which a log is kept, or refuses them. -/
structure Delivers (d : Driver (StateM σ)) (table : String)
    (sends : Schema → List Row → Outcome P) (log : σ → List P) : Prop where
  sent : ∀ {schema rows p} st, rows ≠ [] → sends schema rows = .ok p →
    ∃ st', (d.write table schema rows).run st = (.ok (), st') ∧ log st' = log st ++ [p]
  refused : ∀ {schema rows e} st, rows ≠ [] → sends schema rows = .error e →
    ∃ e' st', (d.write table schema rows).run st = (.error e', st') ∧ log st' = log st

/-- A group is sent as a payload under the schema of its newest call. -/
def SentAs (sends : Schema → List Row → Outcome P) (group : List Batch) (p : P) : Prop :=
  ∃ b, merged? group = some b ∧ sends b.schema b.rows = .ok p

/-- The state of a batching driver whose calls for its only table stand in groups. With `last` it
is in its last flush or behind it. -/
structure Simulates (sends : Schema → List Row → Outcome P) (log : σ → List P) (table : String)
    (before : List P) (last : Bool) (r : Runner σ) (g : Grouping) : Prop where
  buffers : r.machine.buffers =
    ((merged? g.waiting).map fun b => (table, ⟨b.schema, b.rows⟩)).toList
  phase : r.machine.phase = .delivering last (merged? g.aloft).toList
  closed : r.machine.closed = last
  wellFormed : ∀ b ∈ g.aloft ++ g.waiting, b.table = table ∧ b.rows ≠ []
  sent : ∃ ps, List.Forall₂ (SentAs sends) g.delivered ps ∧ log r.server = before ++ ps

namespace Simulates

variable {sends : Schema → List Row → Outcome P} {log : σ → List P} {table : String}
  {before : List P} {last : Bool} {inner : Inner σ} {r : Runner σ} {g : Grouping}

theorem pendingRows_eq (h : Simulates sends log table before last r g) :
    r.machine.pendingRows table = rowsOf g.waiting := by
  rw [Machine.pendingRows, h.buffers]
  cases hw : merged? g.waiting with
  | none =>
    rw [eq_nil_of_merged?_eq_none hw]
    rfl
  | some b => simp [Dict.get?, rows_of_merged? hw]

/-- Putting an entry where only the table of the group can have one leaves one entry. -/
theorem insert_buffers (h : Simulates sends log table before last r g) (buffer : Buffer) :
    Dict.insert r.machine.buffers table buffer = [(table, buffer)] := by
  rw [h.buffers]
  cases merged? g.waiting <;> simp [Dict.insert]

theorem start {settings : Config} {st : σ} (h : Runner.start settings st = .ok r) :
    Simulates sends log table (log st) false r {} := by
  unfold Runner.start at h
  split at h
  · cases h
  · cases h
    exact ⟨rfl, rfl, rfl, nofun, [], .nil, (List.append_nil _).symm⟩

theorem call (h : Simulates sends log table before false r g) (schema : Schema)
    (rows : List Row) :
    Simulates sends log table before false (r.turn inner table (.call schema rows))
      (g.call ⟨table, schema, rows⟩) := by
  -- A call without rows leaves no trace on either side.
  by_cases hrows : rows = []
  · subst hrows
    exact h
  · have hsome : rows.isEmpty = false := by
      simpa using hrows
    have hturn : r.turn inner table (.call schema rows) =
        { r with machine := r.machine.append table schema rows } := by
      simp [Runner.turn, Runner.driver, Runner.write, Machine.write, hsome, h.closed, ExceptT.run,
        ExceptT.mk]
    have hgroup : g.call ⟨table, schema, rows⟩ =
        { g with waiting := g.waiting ++ [⟨table, schema, rows⟩] } := by
      simp [Grouping.call, hsome]
    rw [hturn, hgroup]
    refine ⟨?_, h.phase, h.closed, ?_, h.sent⟩
    · simp [Machine.append, h.insert_buffers, h.pendingRows_eq]
    · intro b hb
      rw [← List.append_assoc, List.mem_append, List.mem_singleton] at hb
      rcases hb with hb | rfl
      · exact h.wellFormed b hb
      · exact ⟨rfl, hrows⟩

/-- A flush takes off with the group that waits. -/
theorem beginFlush (h : Simulates sends log table before false r g) (haloft : g.aloft = [])
    (last : Bool) :
    Simulates sends log table before last (r.beginFlush inner last) g.flush := by
  have hgroup : g.flush = ⟨g.delivered, g.waiting, []⟩ := by
    simp [Grouping.flush, haloft]
  -- The only buffer is what the waiting group gathered into.
  have hsnapshot : r.machine.snapshot = (merged? g.waiting).toList := by
    rw [Machine.snapshot, h.buffers]
    cases hw : merged? g.waiting with
    | none => rfl
    | some b =>
      have htable : b.table = table :=
        table_of_merged? hw fun c hc => (h.wellFormed c (List.mem_append_right _ hc)).1
      subst htable
      rfl
  rcases Runner.beginFlush_eq inner last r with ⟨finish, hflush⟩
  rw [hflush, hgroup]
  refine ⟨rfl, ?_, ?_, ?_, h.sent⟩
  · exact congrArg (Phase.delivering last) hsnapshot
  · simp [Machine.beginFlush, Machine.beginFlushOf, h.closed]
  · intro b hb
    rw [List.append_nil] at hb
    exact h.wellFormed b (List.mem_append_right _ hb)

/-- Only a group in flight makes a flush in progress. -/
theorem phase_of_aloft (h : Simulates sends log table before last r g) (haloft : g.aloft = []) :
    r.machine.phase = .delivering last [] := by
  rw [h.phase, haloft]
  rfl

theorem flush (h : Simulates sends log table before false r g) :
    Simulates sends log table before false (r.turn inner table .flush) g.flush := by
  cases ha : g.aloft with
  | nil =>
    have hturn : r.turn inner table .flush = r.beginFlush inner false := by
      rw [Runner.turn, h.phase_of_aloft ha]
      rfl
    rw [hturn]
    exact h.beginFlush ha false
  | cons first rest =>
    -- No flush begins while a group is in flight.
    have hgroup : g.flush = g := by
      simp [Grouping.flush, ha]
    have hsome : ∃ b, merged? g.aloft = some b := by
      rw [ha]
      exact ⟨_, rfl⟩
    rcases hsome with ⟨b, hb⟩
    have hturn : r.turn inner table .flush = r := by
      rw [Runner.turn, h.phase, hb]
      rfl
    rw [hturn, hgroup]
    exact h

/-- The batch in flight holds rows of the table. -/
theorem front (h : Simulates sends log table before last r g) {b : Batch}
    (hb : merged? g.aloft = some b) :
    r.machine.phase = .flushing last b [] ∧ b.table = table ∧ b.rows ≠ [] := by
  refine ⟨?_, ?_, ?_⟩
  · rw [h.phase, hb]
    rfl
  · exact table_of_merged? hb fun c hc => (h.wellFormed c (List.mem_append_left _ hc)).1
  · exact rows_ne_nil_of_merged? hb fun c hc => (h.wellFormed c (List.mem_append_left _ hc)).2

/-- The end of a delivery hands the batch over and puts it back if it was refused. -/
theorem deliver_eq (h : Simulates sends log table before last r g) {b : Batch}
    (hb : merged? g.aloft = some b) {answer : Outcome Unit} {st : σ}
    (hwrite : (inner.driver.write table b.schema b.rows).run r.server = (answer, st)) :
    ∃ finish, r.deliver inner =
      { r with server := st, machine := r.machine.resolve answer.isOk, finish := finish } := by
  rcases h.front hb with ⟨hphase, htable, -⟩
  rcases Runner.beginBatch_eq inner (r.handOver inner b) with ⟨finish, hnext⟩
  refine ⟨finish, ?_⟩
  rw [Runner.deliver, hphase]
  simp only
  rw [hnext, Runner.handOver, htable, hwrite]

theorem deliver_of_sent (d : Delivers inner.driver table sends log)
    (h : Simulates sends log table before last r g) {b : Batch} (hb : merged? g.aloft = some b)
    {p : P} (hp : sends b.schema b.rows = .ok p) :
    Simulates sends log table before last (r.deliver inner)
      { g with delivered := g.delivered ++ [g.aloft], aloft := [] } := by
  rcases h.front hb with ⟨hphase, -, hrows⟩
  rcases d.sent r.server hrows hp with ⟨st, hwrite, hlog⟩
  rcases h.deliver_eq hb hwrite with ⟨finish, hdeliver⟩
  have hmachine : r.machine.resolve (Except.ok () : Outcome Unit).isOk =
      { r.machine with phase := .delivering last [] } := by
    simp [Machine.resolve, hphase, Except.isOk, Except.toBool]
  rw [hdeliver]
  refine ⟨?_, ?_, ?_, ?_, ?_⟩
  · rw [hmachine]
    exact h.buffers
  · rw [hmachine]
    rfl
  · rw [hmachine]
    exact h.closed
  · intro c hc
    exact h.wellFormed c (List.mem_append_right _ hc)
  · rcases h.sent with ⟨ps, hps, hbefore⟩
    refine ⟨ps ++ [p], List.rel_append hps (.cons ⟨b, hb, hp⟩ .nil), ?_⟩
    rw [hlog, hbefore, List.append_assoc]

theorem deliver_of_refused (d : Delivers inner.driver table sends log)
    (h : Simulates sends log table before last r g) {b : Batch} (hb : merged? g.aloft = some b)
    {e : Failure} (he : sends b.schema b.rows = .error e) :
    Simulates sends log table before last (r.deliver inner)
      { g with aloft := [], waiting := g.aloft ++ g.waiting } := by
  rcases h.front hb with ⟨hphase, htable, hrows⟩
  rcases d.refused r.server hrows he with ⟨e', st, hwrite, hlog⟩
  rcases h.deliver_eq hb hwrite with ⟨finish, hdeliver⟩
  have hmachine : r.machine.resolve (Except.error e' : Outcome Unit).isOk =
      { r.machine.restore b with phase := .delivering last [] } := by
    simp [Machine.resolve, hphase, Except.isOk, Except.toBool]
  rw [hdeliver]
  refine ⟨?_, ?_, ?_, ?_, ?_⟩
  · rw [hmachine]
    simp only [Machine.restore, htable, h.insert_buffers, h.pendingRows_eq]
    cases hw : merged? g.waiting with
    | none =>
      -- Nothing came in the meantime, so the batch keeps its schema.
      have hnil : g.waiting = [] := eq_nil_of_merged?_eq_none hw
      simp [hnil, hb, h.buffers, Dict.get?]
    | some c =>
      -- The newer calls give the schema, and the older rows go in front of theirs.
      simp [merged?_append hw, h.buffers, hw, Dict.get?, rows_of_merged? hb, rows_of_merged? hw]
  · rw [hmachine]
    rfl
  · rw [hmachine]
    exact h.closed
  · exact h.wellFormed
  · rcases h.sent with ⟨ps, hps, hbefore⟩
    exact ⟨ps, hps, hlog.trans hbefore⟩

theorem deliver (d : Delivers inner.driver table sends log)
    (h : Simulates sends log table before last r g) :
    Simulates sends log table before last (r.deliver inner) (g.deliver sends) := by
  unfold Grouping.deliver
  cases hb : merged? g.aloft with
  | none =>
    have hphase := h.phase_of_aloft (eq_nil_of_merged?_eq_none hb)
    have hdeliver : r.deliver inner = r := by
      rw [Runner.deliver, hphase]
      cases last <;> rfl
    rw [hdeliver]
    exact h
  | some b =>
    cases hp : sends b.schema b.rows with
    | ok p =>
      simp only [hp]
      exact h.deliver_of_sent d hb hp
    | error e =>
      simp only [hp]
      exact h.deliver_of_refused d hb hp

theorem turn (d : Delivers inner.driver table sends log)
    (h : Simulates sends log table before false r g) (t : Turn) :
    Simulates sends log table before false (r.turn inner table t) (g.turn sends table t) := by
  cases t with
  | call schema rows => exact h.call schema rows
  | flush => exact h.flush
  | deliver => exact h.deliver d

theorem run (d : Delivers inner.driver table sends log)
    (h : Simulates sends log table before false r {}) (turns : List Turn) :
    Simulates sends log table before false (r.run inner table turns)
      (Grouping.run sends table turns) := by
  -- The induction on the turns is about any state that keeps to its groups.
  have hrun : ∀ (r : Runner σ) (g : Grouping), Simulates sends log table before false r g →
      Simulates sends log table before false (turns.foldl (Runner.turn inner table) r)
        (turns.foldl (Grouping.turn sends table) g) := by
    induction turns with
    | nil =>
      intro r g h
      exact h
    | cons t rest ih =>
      intro r g h
      exact ih _ _ (h.turn d t)
  exact hrun r {} h

/-- Waiting for the end of a flush delivers what is in flight. -/
theorem finishFlush (d : Delivers inner.driver table sends log)
    (h : Simulates sends log table before last r g) :
    Simulates sends log table before last (r.finishFlush inner) (g.deliver sends) := by
  cases hb : merged? g.aloft with
  | none =>
    have hphase := h.phase_of_aloft (eq_nil_of_merged?_eq_none hb)
    have hfinish : r.finishFlush inner = r := by
      rw [Runner.finishFlush, hphase]
      cases last <;> rfl
    have hgroup : g.deliver sends = g := by
      simp [Grouping.deliver, hb]
    rw [hfinish, hgroup]
    exact h
  | some b =>
    have hphase := (h.front hb).1
    have hfinish : r.finishFlush inner =
        Runner.deliver inner { r with now := max r.now r.finish } := by
      rw [Runner.finishFlush, hphase]
      rfl
    -- Time passes until the delivery ends; nothing else does.
    have hlater : Simulates sends log table before last
        { r with now := max r.now r.finish } g :=
      ⟨h.buffers, h.phase, h.closed, h.wellFormed, h.sent⟩
    rw [hfinish]
    exact hlater.deliver d

/-- The last flush delivers what is in flight and then what waits. -/
theorem shutdown (d : Delivers inner.driver table sends log)
    (h : Simulates sends log table before false r g) :
    Simulates sends log table before true (r.shutdown inner) (g.shutdown sends) := by
  have hcancelled : Simulates sends log table before false r.cancel g :=
    ⟨h.buffers, h.phase, h.closed, h.wellFormed, h.sent⟩
  -- What was in flight has landed before the last flush begins.
  have hrest := hcancelled.finishFlush d
  have haloft : (g.deliver sends).aloft = [] := g.aloft_deliver
  have hbegun : Simulates sends log table before true
      ((r.cancel.finishFlush inner).beginFlush inner true) (g.deliver sends).flush :=
    hrest.beginFlush haloft true
  have hlast := hbegun.finishFlush d
  have hshutdown : r.shutdown inner =
      Runner.finishFlush inner (Runner.beginFlush inner true (Runner.finishFlush inner r.cancel)) := by
    rw [Runner.shutdown]
    simp only [hrest.phase_of_aloft haloft]
    rfl
  rw [hshutdown]
  exact hlast

end Simulates

end Batching
end Ingest
