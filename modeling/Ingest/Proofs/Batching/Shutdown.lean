import Ingest.Batching.Schedule
import Ingest.Proofs.Batching.Conservation
import Ingest.Proofs.Dict

/-!
# The end of a batching machine

A run is told here by its occurrences: calls and their answers, flushes that take off, batches that
are answered, and drains at rest. The flush that a cancellation begins is the last one. From then on
no row is accepted, so that the machine holds nothing but what this flush was refused
(`Closing`). When the flush is over, what waits is what the owner can drain, and with what left
before it makes up all that was ever accepted.
-/

namespace Ingest

open scoped List

namespace Batching

/-! ## Occurrences -/

/-- Something that happens to a machine. -/
inductive Occurrence where
  /-- A producer calls and is answered. -/
  | call (c : Batch) (answer : Outcome Unit)
  /-- A flush begins and takes what waits, in an order. -/
  | takeOff (t : Trigger) (order : List Batch)
  /-- The driver behind the buffers delivers or refuses the batch in front. -/
  | answer (b : Batch) (delivered : Bool)
  /-- The owner takes what waits. -/
  | drain (taken : List Batch)

namespace Occurrence

/-- The calls whose rows were accepted. -/
def accepted : Occurrence → List Batch
  | call c (.ok ()) => [c]
  | _ => []

/-- The batches that left the machine, delivered or drained. -/
def handedOut : Occurrence → List Batch
  | answer b true => [b]
  | drain taken => taken
  | _ => []

/-- The batches that the driver behind the buffers was given. -/
def answered : Occurrence → List Batch
  | answer b _ => [b]
  | _ => []

def refused : Occurrence → List Batch
  | answer b false => [b]
  | _ => []

end Occurrence

/-- What can happen to a machine, and what becomes of it. What waits is drained only while no flush
is in progress. -/
inductive Occurs : Machine → Occurrence → Machine → Prop
  | call (m : Machine) (c : Batch) :
      Occurs m (.call c (m.write c.table c.schema c.rows).1)
        (m.write c.table c.schema c.rows).2
  | takeOff (m : Machine) (t : Trigger) (order : List Batch) :
      m.phase = .idle → (t = .wakeUp → m.wakeRequested = true) → order.Perm m.snapshot →
        Occurs m (.takeOff t order) ((t.acknowledge m).beginFlushOf t.isLast order)
  | answer (m : Machine) (last : Bool) (b : Batch) (rest : List Batch) (delivered : Bool) :
      m.phase = .flushing last b rest → Occurs m (.answer b delivered) (m.resolve delivered)
  | drain (m : Machine) :
      m.phase.inFlight = [] → Occurs m (.drain m.drain.1) m.drain.2

/-- A machine goes through occurrences, one after the other. -/
inductive Goes : Machine → List Occurrence → Machine → Prop
  | nil (m : Machine) : Goes m [] m
  | cons {m m' m'' : Machine} {o : Occurrence} {os : List Occurrence} :
      Occurs m o m' → Goes m' os m'' → Goes m (o :: os) m''

theorem goes_append {m m' : Machine} {os os' : List Occurrence} (h : Goes m (os ++ os') m') :
    ∃ between, Goes m os between ∧ Goes between os' m' := by
  induction os generalizing m with
  | nil => exact ⟨m, .nil m, h⟩
  | cons o os ih =>
    cases h with
    | cons ho hos =>
      rcases ih hos with ⟨between, hfirst, hsecond⟩
      exact ⟨between, .cons ho hfirst, hsecond⟩

/-! ## Occurrences make a history -/

/-- An occurrence takes a reachable history to one with what the occurrence adds. -/
theorem Occurs.history {n : Nat} {h : History} {m' : Machine} {o : Occurrence}
    (hr : Reachable true n h) (ho : Occurs h.machine o m') :
    ∃ h', Reachable true n h' ∧ h'.machine = m' ∧
      h'.handedOut = h.handedOut ++ o.handedOut ∧
      ∀ table, rowsFor table h'.accepted =
        rowsFor table h.accepted ++ rowsFor table o.accepted := by
  cases ho with
  | call c =>
    by_cases hc : c.rows = []
    -- A call without rows is answered, and adds none.
    · refine ⟨h, hr, by simp [Machine.write, hc], by simp [Occurrence.handedOut], ?_⟩
      intro table
      by_cases ht : c.table = table <;>
        simp [Machine.write, hc, Occurrence.accepted, rowsFor, batchesFor, ht]
    · refine ⟨h.write c, hr.step (.write h c hc), rfl, by simp [History.write,
        Occurrence.handedOut], ?_⟩
      intro table
      cases hclosed : h.machine.closed <;>
        simp [History.write, Machine.write, hc, hclosed, Occurrence.accepted, Except.isOk,
          Except.toBool]
  | takeOff t order hidle hwake hperm =>
    have hstep : Step true h _ := .beginFlush h t order hidle hwake hperm
    exact ⟨_, hr.step hstep, rfl, by simp [History.beginFlush, Occurrence.handedOut],
      by simp [History.beginFlush, Occurrence.accepted]⟩
  | answer last b rest delivered hphase =>
    have hstep : Step true h _ := .resolve h last b rest delivered hphase
    refine ⟨_, hr.step hstep, rfl, ?_, by simp [History.resolve, Occurrence.accepted]⟩
    cases delivered <;> simp [History.resolve, Occurrence.handedOut]
  | drain hrest =>
    have hstep : Step true h _ := .drain h fun _ => hrest
    exact ⟨_, hr.step hstep, rfl, rfl, by simp [History.drain, Occurrence.accepted]⟩

theorem Goes.history {n : Nat} {h : History} {m' : Machine} {os : List Occurrence}
    (hr : Reachable true n h) (hgo : Goes h.machine os m') :
    ∃ h', Reachable true n h' ∧ h'.machine = m' ∧
      h'.handedOut = h.handedOut ++ os.flatMap Occurrence.handedOut ∧
      ∀ table, rowsFor table h'.accepted =
        rowsFor table h.accepted ++ rowsFor table (os.flatMap Occurrence.accepted) := by
  induction os generalizing h with
  | nil =>
    cases hgo with
    | nil => exact ⟨h, hr, rfl, by simp, by simp⟩
  | cons o os ih =>
    cases hgo with
    | cons ho hos =>
      rcases ho.history hr with ⟨h₁, hr₁, rfl, hout₁, hacc₁⟩
      rcases ih hr₁ hos with ⟨h₂, hr₂, hm₂, hout₂, hacc₂⟩
      exact ⟨h₂, hr₂, hm₂, by simp [hout₂, hout₁], by simp [hacc₂, hacc₁]⟩

/-- What a new machine goes through, it goes through in a history. -/
theorem exists_history {n : Nat} {m : Machine} {os : List Occurrence}
    (hgo : Goes { maxBatchSize := n } os m) :
    ∃ h, Reachable true n h ∧ h.machine = m ∧
      h.handedOut = os.flatMap Occurrence.handedOut ∧
      ∀ table, rowsFor table h.accepted = rowsFor table (os.flatMap Occurrence.accepted) := by
  rcases Goes.history (h := .start n) .start hgo with ⟨h, hr, hm, hout, hacc⟩
  exact ⟨h, hr, hm, by simpa [History.start] using hout, by simpa [History.start] using hacc⟩

/-! ## The last flush -/

/-- The last flush has taken off with the batches in an order, and has got an answer to some of
them. What it was refused is all that waits. -/
structure Closing (order answered refused : List Batch) (m : Machine) : Prop where
  closed : m.closed = true
  underway : ∃ rest, m.phase = .delivering true rest ∧ answered ++ rest = order
  waiting : m.snapshot.Perm refused
  among : refused ⊆ answered

namespace Machine

/-- A batch for whose table nothing waits is put back as it was. -/
theorem snapshot_restore_perm {m : Machine} {b : Batch} (h : b.table ∉ m.snapshot.map (·.table)) :
    (m.restore b).snapshot.Perm (b :: m.snapshot) := by
  have habsent : b.table ∉ m.buffers.map (·.1) := by simpa using h
  have hget := Dict.get?_eq_none_of_not_mem habsent
  have hperm := Dict.perm_insert_of_not_mem habsent (Buffer.mk b.schema b.rows)
  simpa [restore, pendingRows, hget, snapshot] using
    hperm.map fun e => (⟨e.1, e.2.schema, e.2.rows⟩ : Batch)

end Machine

namespace Closing

variable {order answered refused : List Batch} {m m' : Machine}

theorem takeOff (m : Machine) (order : List Batch) :
    Closing order [] [] ((Trigger.cancellation.acknowledge m).beginFlushOf
      Trigger.cancellation.isLast order) where
  closed := by simp [Trigger.isLast, Machine.beginFlushOf]
  underway := ⟨order, rfl, rfl⟩
  waiting := .refl _
  among := List.nil_subset _

/-- Only the batch in front can be answered, and no other flush begins. -/
theorem occurs (hc : Closing order answered refused m) (hnd : (order.map (·.table)).Nodup)
    {o : Occurrence} (ho : Occurs m o m') (hdrain : ∀ taken, o ≠ .drain taken) :
    Closing order (answered ++ o.answered) (refused ++ o.refused) m' := by
  rcases hc.underway with ⟨rest, hphase, horder⟩
  cases ho with
  | call c =>
    have hsame : (m.write c.table c.schema c.rows).2 = m := by
      by_cases hne : c.rows = []
      · simp [Machine.write, hne]
      · rw [Machine.write_of_closed hc.closed hne]
    rw [hsame]
    simpa [Occurrence.answered, Occurrence.refused] using hc
  | takeOff t others hidle _ _ =>
    -- The phase is never idle again.
    rw [hphase] at hidle
    cases rest <;> cases hidle
  | answer last b rest' delivered hfront =>
    rw [hphase] at hfront
    cases rest with
    | nil => cases hfront
    | cons b' rest =>
      cases hfront
      have hmachine := Machine.resolve_of_flushing hphase delivered
      -- The flush holds each table once, so nothing was refused for this one before.
      have hfresh : b.table ∉ m.snapshot.map (·.table) := by
        intro hmem
        have hans : b.table ∈ answered.map (·.table) :=
          List.map_subset _ hc.among ((hc.waiting.map _).mem_iff.1 hmem)
        rw [← horder, List.map_append, List.nodup_append] at hnd
        exact hnd.2.2 _ hans _ (by simp) rfl
      refine ⟨?_, ⟨rest', ?_, ?_⟩, ?_, ?_⟩
      · rw [hmachine]
        cases delivered <;> exact hc.closed
      · rw [hmachine]
      · simpa [Occurrence.answered] using horder
      · rw [hmachine]
        cases delivered with
        | true => simpa [Occurrence.refused, Machine.snapshot] using hc.waiting
        | false =>
          calc
            (m.restore b).snapshot ~ b :: m.snapshot := Machine.snapshot_restore_perm hfresh
            _ ~ b :: refused := hc.waiting.cons b
            _ ~ refused ++ [b] := (List.perm_append_singleton b refused).symm
      · cases delivered with
        | true => simpa [Occurrence.refused] using List.subset_append_of_subset_left _ hc.among
        | false =>
          exact List.append_subset.2 ⟨List.subset_append_of_subset_left _ hc.among,
            List.subset_append_right _ _⟩
  | drain hrest => exact absurd rfl (hdrain _)

theorem goes (hc : Closing order answered refused m) (hnd : (order.map (·.table)).Nodup)
    {os : List Occurrence} (hgo : Goes m os m') (hdrain : ∀ taken, .drain taken ∉ os) :
    Closing order (answered ++ os.flatMap Occurrence.answered)
      (refused ++ os.flatMap Occurrence.refused) m' := by
  induction os generalizing answered refused m with
  | nil =>
    cases hgo with
    | nil => simpa using hc
  | cons o os ih =>
    cases hgo with
    | cons ho hos =>
      have hnow : ∀ taken, o ≠ .drain taken := by
        intro taken heq
        exact hdrain taken (heq ▸ List.mem_cons_self)
      have hlater : ∀ taken, .drain taken ∉ os := by
        intro taken hmem
        exact hdrain taken (List.mem_cons_of_mem o hmem)
      simpa using ih (hc.occurs hnd ho hnow) hos hlater

end Closing

/-- A closed machine stays closed. -/
theorem closed_of_goes {m m' : Machine} {os : List Occurrence} (hclosed : m.closed = true)
    (hgo : Goes m os m') : m'.closed = true := by
  induction hgo with
  | nil m => exact hclosed
  | cons ho _ ih =>
    apply ih
    cases ho with
    | call c => by_cases hne : c.rows = [] <;> simp [Machine.write, hne, hclosed]
    | takeOff t order _ _ _ => cases t <;> simp [Machine.beginFlushOf, Trigger.acknowledge, hclosed]
    | answer last b rest delivered hphase =>
      rw [Machine.resolve_of_flushing hphase]
      cases delivered <;> exact hclosed
    | drain _ => exact hclosed

/-- Nothing waits in a machine that has stopped and was drained, whatever happens to it. -/
theorem snapshot_eq_nil_of_goes {m m' : Machine} {os : List Occurrence} (hclosed : m.closed = true)
    (hphase : m.phase = .stopped) (hempty : m.snapshot = []) (hgo : Goes m os m') :
    m'.snapshot = [] := by
  induction hgo with
  | nil m => exact hempty
  | @cons m m₁ m'' o os ho _ ih =>
    cases ho with
    | call c =>
      have hsame : (m.write c.table c.schema c.rows).2 = m := by
        by_cases hne : c.rows = [] <;> simp [Machine.write, hne, hclosed]
      rw [hsame] at ih
      exact ih hclosed hphase hempty
    | takeOff t order hidle _ _ =>
      rw [hphase] at hidle
      cases hidle
    | answer last b rest delivered hfront =>
      rw [hphase] at hfront
      cases hfront
    | drain _ => exact ih hclosed hphase rfl

/-- The last flush closes the machine for good. -/
theorem closed_of_goes_takeOff {m₀ m : Machine} {order : List Batch} {during : List Occurrence}
    (hgo : Goes m₀ (.takeOff .cancellation order :: during) m) : m.closed = true := by
  cases hgo with
  | cons htake hduring =>
    cases htake with
    | takeOff _ _ _ _ _ => exact closed_of_goes (Closing.takeOff m₀ order).closed hduring

theorem closing_of_goes_takeOff {m₀ m : Machine} {order : List Batch} {during : List Occurrence}
    (hsorted : Dict.Sorted m₀.buffers)
    (hgo : Goes m₀ (.takeOff .cancellation order :: during) m)
    (hdrain : ∀ taken, .drain taken ∉ during) :
    Closing order (during.flatMap Occurrence.answered) (during.flatMap Occurrence.refused) m := by
  cases hgo with
  | cons htake hduring =>
    cases htake with
    | takeOff _ _ _ _ hperm =>
      -- The last flush holds each table once, as the snapshot does.
      have hnd : (order.map (·.table)).Nodup := by
        apply (hperm.map _).nodup_iff.2
        rw [Machine.map_table_snapshot]
        exact hsorted.nodup_keys
      exact (Closing.takeOff m₀ order).goes hnd hduring hdrain

/-! ## The flush task -/

theorem Goes.trans {m m' m'' : Machine} {os os' : List Occurrence} (h : Goes m os m')
    (h' : Goes m' os' m'') : Goes m (os ++ os') m'' := by
  induction h with
  | nil m => exact h'
  | cons ho _ ih => exact .cons ho (ih h')

theorem Occurs.goes {m m' : Machine} {o : Occurrence} (h : Occurs m o m') : Goes m [o] m' :=
  .cons h (.nil m')

namespace Phase

/-- Where the flushing stands after the flush in progress. -/
def finished : Phase → Phase
  | flushing last _ _ => delivering last []
  | p => p

@[simp] theorem finished_delivering (last : Bool) (batches : List Batch) :
    (delivering last batches).finished = delivering last [] := by
  cases batches <;> cases last <;> rfl

@[simp] theorem inFlight_finished (p : Phase) : p.finished.inFlight = [] := by
  cases p with
  | idle => rfl
  | flushing last current rest => exact inFlight_delivering last []
  | stopped => rfl

end Phase

namespace Runner

variable {σ : Type} (inner : Inner σ) {r r' : Runner σ}

theorem occurs_beginFlush {t : Trigger} (hidle : r.machine.phase = .idle)
    (hwake : t = .wakeUp → r.machine.wakeRequested = true) {s : Runner σ}
    (hs : s.machine = t.acknowledge r.machine) :
    Occurs r.machine (.takeOff t r.machine.snapshot) (s.beginFlush inner t.isLast).machine := by
  rcases beginFlush_eq inner t.isLast s with ⟨finish, heq⟩
  have hmachine : (s.beginFlush inner t.isLast).machine =
      (t.acknowledge r.machine).beginFlushOf t.isLast r.machine.snapshot := by
    rw [heq]
    cases t <;> simp [Machine.beginFlush, hs, Trigger.acknowledge, Machine.snapshot]
  rw [hmachine]
  exact .takeOff r.machine t _ hidle hwake (.refl _)

theorem occurs_deliver {last : Bool} {b : Batch} {rest : List Batch}
    (hphase : r.machine.phase = .flushing last b rest) :
    ∃ delivered, Occurs r.machine (.answer b delivered) (r.deliver inner).machine ∧
      (r.deliver inner).machine.phase = .delivering last rest := by
  rcases beginBatch_eq inner (r.handOver inner b) with ⟨finish, heq⟩
  have hmachine : (r.deliver inner).machine = (r.handOver inner b).machine := by
    simp [deliver, hphase, heq]
  rw [hmachine, handOver]
  exact ⟨_, .answer r.machine last b rest _ hphase, by simp [Machine.resolve_of_flushing hphase]⟩

/-- What the flush task does next is an occurrence. -/
theorem occurs_of_act (h : r.act inner = some r') : ∃ o, Occurs r.machine o r'.machine := by
  unfold act at h
  split at h
  · cases h
  · rename_i last b rest hphase
    split at h
    · cases h
      rcases occurs_deliver inner hphase with ⟨delivered, ho, _⟩
      exact ⟨_, ho⟩
    · cases h
  · rename_i hidle
    split at h
    · cases h
      exact ⟨_, occurs_beginFlush inner (t := .cancellation) hidle (by simp) rfl⟩
    · split at h
      · cases h
        exact ⟨_, occurs_beginFlush inner (t := .tick) hidle (by simp) rfl⟩
      · split at h
        · rename_i hwake
          cases h
          exact ⟨_, occurs_beginFlush inner (t := .wakeUp) hidle (fun _ => hwake) rfl⟩
        · cases h

/-- As time goes by, the machine goes through occurrences. -/
theorem goes_runUntil (target : Nat) (r : Runner σ) :
    ∃ os, Goes r.machine os (runUntil inner target r).machine := by
  fun_induction runUntil inner target r with
  | case1 r r' hact ih =>
    rcases occurs_of_act inner hact with ⟨o, ho⟩
    rcases ih with ⟨os, hos⟩
    exact ⟨o :: os, .cons ho hos⟩
  | case2 r _ _ => exact ⟨[], .nil _⟩
  | case3 r _ t _ _ ih => exact ih
  | case4 r _ t _ _ => exact ⟨[], .nil _⟩

theorem goes_deliverAll {last : Bool} {b : Batch} {rest : List Batch}
    (hphase : r.machine.phase = .flushing last b rest) :
    ∃ os, Goes r.machine os (deliverAll inner rest r).machine ∧
      (deliverAll inner rest r).machine.phase = .delivering last [] := by
  induction rest generalizing r b with
  | nil =>
    rcases occurs_deliver inner (r := { r with now := max r.now r.finish }) hphase with
      ⟨delivered, ho, hend⟩
    exact ⟨_, ho.goes, hend⟩
  | cons c rest ih =>
    rcases occurs_deliver inner (r := { r with now := max r.now r.finish }) hphase with
      ⟨delivered, ho, hnext⟩
    rcases ih hnext with ⟨os, hos, hend⟩
    exact ⟨_, .cons ho hos, hend⟩

theorem goes_finishFlush (r : Runner σ) :
    ∃ os, Goes r.machine os (finishFlush inner r).machine ∧
      (finishFlush inner r).machine.phase = r.machine.phase.finished := by
  unfold finishFlush
  cases hphase : r.machine.phase with
  | idle => exact ⟨[], .nil _, hphase⟩
  | stopped => exact ⟨[], .nil _, hphase⟩
  | flushing last b rest => exact goes_deliverAll inner hphase

/-- A shutdown completes the last flush. -/
theorem goes_shutdown (r : Runner σ) :
    ∃ os, Goes r.machine os (shutdown inner r).machine ∧
      (shutdown inner r).machine.phase = .stopped := by
  rcases goes_finishFlush inner r.cancel with ⟨os, hos, hend⟩
  cases hphase : (finishFlush inner r.cancel).machine.phase with
  | stopped =>
    have hover : shutdown inner r = finishFlush inner r.cancel := by simp [shutdown, hphase]
    rw [hover]
    exact ⟨os, hos, hphase⟩
  | flushing last b rest =>
    -- A flush that is finished is not in progress.
    have hno : (Phase.flushing last b rest).inFlight = [] := by
      rw [← hphase, hend, Phase.inFlight_finished]
    cases hno
  | idle =>
    have hagain : shutdown inner r =
        finishFlush inner ((finishFlush inner r.cancel).beginFlush inner true) := by
      simp [shutdown, hphase]
    rw [hagain]
    have hlast := occurs_beginFlush inner (t := .cancellation) hphase (by simp) rfl
    rcases goes_finishFlush inner ((finishFlush inner r.cancel).beginFlush inner true) with
      ⟨os', hos', hend'⟩
    refine ⟨os ++ .takeOff .cancellation _ :: os', hos.trans (.cons hlast hos'), ?_⟩
    rw [hend']
    rcases beginFlush_eq inner true (finishFlush inner r.cancel) with ⟨finish, heq⟩
    rw [heq]
    exact Phase.finished_delivering true _

end Runner

/-! ## Nothing is stranded -/

/-- After the last flush has taken off, no rows are accepted. When it is over, what waits is what it
was refused, all that was accepted has been handed out or waits, and the owner takes what waits
once, in the order of the tables. -/
theorem shutdown_strands_nothing {maxBatchSize : Nat} {before during : List Occurrence}
    {order : List Batch} {m : Machine}
    (hgo : Goes { maxBatchSize := maxBatchSize }
      (before ++ .takeOff .cancellation order :: during) m) :
    (∀ c : Batch, c.rows ≠ [] →
        m.write c.table c.schema c.rows = (.error .driverClosed, m)) ∧
      (m.phase = .stopped → (∀ taken, .drain taken ∉ during) →
        during.flatMap Occurrence.answered = order ∧
        m.snapshot ~ during.flatMap Occurrence.refused ∧
        (∀ table, rowsFor table ((before ++ during).flatMap Occurrence.accepted) =
          rowsFor table ((before ++ during).flatMap Occurrence.handedOut) ++
            m.pendingRows table) ∧
        m.drain.1 = m.snapshot ∧ (m.snapshot.map (·.table)).Pairwise (· < ·) ∧
        ∀ after m', Goes m.drain.2 after m' → m'.drain.1 = []) := by
  rcases goes_append hgo with ⟨m₀, hbefore, hlast⟩
  rcases exists_history hbefore with ⟨h₀, hr₀, rfl, -, -⟩
  have hsorted₀ := (tidy_of_reachable hr₀).sorted
  refine ⟨fun c hne => Machine.write_of_closed (closed_of_goes_takeOff hlast) hne, ?_⟩
  intro hstopped hdrain
  have hclosing := closing_of_goes_takeOff hsorted₀ hlast hdrain
  rcases hclosing.underway with ⟨rest, hphase, horder⟩
  have hrest : rest = [] := by
    rw [hstopped] at hphase
    cases rest with
    | nil => rfl
    | cons b rest => cases hphase
  rcases exists_history hgo with ⟨h, hr, rfl, hout, hacc⟩
  refine ⟨by simpa [hrest] using horder, hclosing.waiting, ?_, rfl, ?_, ?_⟩
  · intro table
    rcases division_of_reachable hr table with ⟨left, aloft, waiting, d⟩
    have haloft : aloft = [] := d.aloft_eq_nil (by simp [hstopped, Phase.inFlight])
    have hall : rowsFor table h.accepted =
        rowsFor table h.handedOut ++ h.machine.pendingRows table := by
      rw [d.rowsFor_handedOut, d.pendingRows_eq, rowsFor, d.calls, haloft]
      simp
    simpa [hacc, hout, Occurrence.accepted, Occurrence.handedOut] using hall
  · rw [Machine.map_table_snapshot]
    exact List.pairwise_map.2 (tidy_of_reachable hr).sorted
  · intro after m' hafter
    exact snapshot_eq_nil_of_goes (m := h.machine.drain.2) hclosing.closed hstopped rfl hafter

/-- A batch is drained, then the last flush delivers a batch, is refused another and turns a call
away. -/
theorem refused_batch_waits_after_shutdown :
    let early : Batch := ⟨"t", .empty, [[("a", .null)]]⟩
    let late : Batch := ⟨"t", .empty, [[("b", .null)]]⟩
    let other : Batch := ⟨"u", .empty, [[("c", .null)]]⟩
    let before : List Occurrence :=
      [.call early (.ok ()), .drain [early], .call late (.ok ()), .call other (.ok ())]
    let during : List Occurrence :=
      [.answer other true, .call early (.error .driverClosed), .answer late false]
    ∃ m, Goes { maxBatchSize := 5 } (before ++ .takeOff .cancellation [other, late] :: during) m ∧
      m.phase = .stopped ∧ (∀ taken, .drain taken ∉ during) ∧
      m.write "t" .empty [[("a", .null)]] = (.error .driverClosed, m) ∧
      m.drain.1 = [late] ∧ m.drain.2.drain.1 = [] := by
  intro early late other before during
  have run : ∃ m, Goes { maxBatchSize := 5 }
      (before ++ .takeOff .cancellation [other, late] :: during) m ∧ m.phase = .stopped ∧
        m.snapshot = [late] := by
    refine ⟨_, .cons (.call _ early) (.cons (.drain _ rfl) (.cons (.call _ late)
      (.cons (.call _ other) (.cons (.takeOff _ .cancellation [other, late] rfl nofun ?_)
      (.cons (.answer _ true other [late] true rfl) (.cons (.call _ early)
      (.cons (.answer _ true late [] false rfl) (.nil _)))))))), rfl, rfl⟩
    -- The tables are in order in the buffers, and the flush takes them the other way round.
    have hlt : ¬ "u" < "t" := by decide
    refine (List.Perm.swap late other []).trans (.of_eq ?_)
    simp [Machine.write, Machine.append, Machine.drain, Machine.snapshot, Machine.pendingRows,
      Dict.insert, Dict.get?, hlt, early, late, other]
  rcases run with ⟨m, hgo, hstopped, hsnapshot⟩
  have hdrain : ∀ taken, .drain taken ∉ during := by simp [during]
  have all := shutdown_strands_nothing hgo
  rcases all.2 hstopped hdrain with ⟨-, -, -, htaken, -, hagain⟩
  exact ⟨m, hgo, hstopped, hdrain, all.1 early (by simp [early]), htaken.trans hsnapshot,
    hagain [] _ (.nil _)⟩

end Batching
end Ingest
