import Ingest.Proofs.Batching.Shutdown
import Mathlib.Data.List.Forall2
import Mathlib.Data.List.Induction
import Mathlib.Logic.Function.Basic

/-!
# Where the rows of a batch come from

The calls that are accepted are numbered in the order of their acceptance, and each call is followed
on its way: it waits with others for its table, takes off with them, and comes back in front of the
newer ones when their batch is refused (`Origins`). Wherever they are, the calls of one batch stand
in the order of their numbers, and the machine holds what they gather into (`Follows`). So a batch
has the rows of its calls, at least one, and the schema of the newest of them.
-/

namespace Ingest
namespace Batching

/-- A call that was accepted, and how many were accepted before. -/
structure Numbered where
  number : Nat
  call : Batch

/-- The calls whose rows wait, by table, and those of the batches in flight and of the batches that
the driver behind the buffers has answered. -/
structure Origins where
  accepted : Nat := 0
  waiting : String → List Numbered := fun _ => []
  inFlight : List (List Numbered) := []
  answered : List (List Numbered) := []

namespace Origins

/-- What an occurrence does to the calls. A call without rows is accepted, but none of its rows
waits. -/
def follow (origins : Origins) : Occurrence → Origins
  | .call c (.ok ()) =>
    let arrived := if c.rows.isEmpty then [] else [⟨origins.accepted, c⟩]
    { origins with
      accepted := origins.accepted + 1
      waiting := Function.update origins.waiting c.table (origins.waiting c.table ++ arrived) }
  | .call _ (.error _) => origins
  | .takeOff _ order =>
    { origins with
      waiting := fun _ => []
      inFlight := order.map fun b => origins.waiting b.table }
  | .answer b delivered =>
    let front := origins.inFlight.headD []
    { origins with
      waiting :=
        if delivered then origins.waiting
        else Function.update origins.waiting b.table (front ++ origins.waiting b.table)
      inFlight := origins.inFlight.tail
      answered := origins.answered ++ [front] }
  | .drain _ => { origins with waiting := fun _ => [] }

end Origins

/-- The calls of a run, each where the run has brought it. -/
def origins (os : List Occurrence) : Origins :=
  os.foldl Origins.follow {}

theorem origins_append_singleton (os : List Occurrence) (o : Occurrence) :
    origins (os ++ [o]) = (origins os).follow o :=
  List.foldl_concat ..

/-! ## The calls of one batch -/

/-- Accepted calls for a table, each with rows, in the order of their acceptance. -/
structure InOrder (accepted : List Batch) (table : String) (calls : List Numbered) : Prop where
  accepted : ∀ x ∈ calls, accepted[x.number]? = some x.call
  increasing : calls.Pairwise fun x y => x.number < y.number
  table : ∀ x ∈ calls, x.call.table = table
  nonempty : ∀ x ∈ calls, x.call.rows ≠ []

/-- A batch holds the rows of calls, and carries the schema of the newest of them. -/
structure Gathers (accepted : List Batch) (calls : List Numbered) (b : Batch) : Prop
    extends InOrder accepted b.table calls where
  rows : b.rows = rowsOf (calls.map (·.call))
  hasRows : b.rows ≠ []
  newest : ∃ x ∈ calls, b.schema = x.call.schema ∧ ∀ y ∈ calls, y.number ≤ x.number

namespace InOrder

variable {accepted : List Batch} {table : String} {calls : List Numbered}

theorem nil (accepted : List Batch) (table : String) : InOrder accepted table [] :=
  ⟨by simp, .nil, by simp, by simp⟩

theorem number_lt (h : InOrder accepted table calls) {x : Numbered} (hx : x ∈ calls) :
    x.number < accepted.length :=
  (List.getElem?_eq_some_iff.1 (h.accepted x hx)).1

/-- Calls that are accepted later do not change the numbers. -/
theorem extend (h : InOrder accepted table calls) (later : List Batch) :
    InOrder (accepted ++ later) table calls where
  accepted x hx := by
    rw [List.getElem?_append_left (h.number_lt hx), h.accepted x hx]
  increasing := h.increasing
  table := h.table
  nonempty := h.nonempty

theorem append {newer : List Numbered} (h : InOrder accepted table calls)
    (hnewer : InOrder accepted table newer)
    (hlt : ∀ x ∈ calls, ∀ y ∈ newer, x.number < y.number) :
    InOrder accepted table (calls ++ newer) where
  accepted x hx := (List.mem_append.1 hx).elim (h.accepted x) (hnewer.accepted x)
  increasing := List.pairwise_append.2 ⟨h.increasing, hnewer.increasing, hlt⟩
  table x hx := (List.mem_append.1 hx).elim (h.table x) (hnewer.table x)
  nonempty x hx := (List.mem_append.1 hx).elim (h.nonempty x) (hnewer.nonempty x)

/-- The call that is accepted next is the newest of all. -/
theorem append_next (h : InOrder accepted table calls) {c : Batch} (ht : c.table = table)
    (hne : c.rows ≠ []) : InOrder (accepted ++ [c]) table (calls ++ [⟨accepted.length, c⟩]) := by
  have hnext : InOrder (accepted ++ [c]) table [⟨accepted.length, c⟩] :=
    ⟨by simp, List.pairwise_singleton .., by simp [ht], by simp [hne]⟩
  apply (h.extend [c]).append hnext
  intro x hx y hy
  rw [List.mem_singleton.1 hy]
  exact h.number_lt hx

end InOrder

/-- A batch is what calls in order gather into. -/
structure MergedFrom (accepted : List Batch) (calls : List Numbered) (b : Batch) : Prop
    extends InOrder accepted b.table calls where
  merged : merged? (calls.map (·.call)) = some b

namespace MergedFrom

variable {accepted : List Batch} {calls : List Numbered} {b : Batch}

theorem extend (h : MergedFrom accepted calls b) (later : List Batch) :
    MergedFrom (accepted ++ later) calls b :=
  ⟨h.toInOrder.extend later, h.merged⟩

/-- The schema of the last call is that of the newest one. -/
theorem gathers (h : MergedFrom accepted calls b) : Gathers accepted calls b where
  toInOrder := h.toInOrder
  rows := rows_of_merged? h.merged
  hasRows := by
    apply rows_ne_nil_of_merged? h.merged
    intro c hc
    rcases List.mem_map.1 hc with ⟨x, hx, rfl⟩
    exact h.nonempty x hx
  newest := by
    rcases List.eq_nil_or_concat' calls with rfl | ⟨older, last, rfl⟩
    · cases h.merged
    · have hmerged := h.merged
      have hschema : b.schema = last.call.schema := by
        rw [List.map_append, List.map_singleton, merged?_append_singleton] at hmerged
        rw [← Option.some.inj hmerged]
      refine ⟨last, by simp, hschema, ?_⟩
      intro y hy
      have hbefore := (List.pairwise_append.1 h.increasing).2.2
      rcases List.mem_append.1 hy with hy | hy
      · exact Nat.le_of_lt (hbefore y hy last (by simp))
      · exact Nat.le_of_eq (congrArg Numbered.number (List.mem_singleton.1 hy))

end MergedFrom

/-- The calls of a batch, out of the calls of several batches. -/
theorem MergedFrom.exists_of_mem {accepted : List Batch} {groups : List (List Numbered)}
    {batches : List Batch} (h : List.Forall₂ (MergedFrom accepted) groups batches)
    {calls : List Numbered} (hcalls : calls ∈ groups) :
    ∃ b ∈ batches, MergedFrom accepted calls b := by
  induction h with
  | nil => cases hcalls
  | cons hb _ ih =>
    rcases List.mem_cons.1 hcalls with rfl | hcalls
    · exact ⟨_, List.mem_cons_self, hb⟩
    · rcases ih hcalls with ⟨b, hmem, hb⟩
      exact ⟨b, List.mem_cons_of_mem _ hmem, hb⟩

/-! ## The calls are where the rows are -/

/-- What the machine holds, and what the driver behind the buffers was given, is what the calls
gather into. A call in flight is older than all that wait for its table. -/
structure Follows (accepted answered : List Batch) (origins : Origins) (m : Machine) : Prop where
  count : origins.accepted = accepted.length
  waiting : ∀ table, InOrder accepted table (origins.waiting table)
  buffer : ∀ table, Dict.get? m.buffers table =
    (merged? ((origins.waiting table).map (·.call))).map fun b => ⟨b.schema, b.rows⟩
  inFlight : List.Forall₂ (MergedFrom accepted) origins.inFlight m.phase.inFlight
  older : ∀ calls ∈ origins.inFlight, ∀ x ∈ calls, ∀ y ∈ origins.waiting x.call.table,
    x.number < y.number
  answered : List.Forall₂ (MergedFrom accepted) origins.answered answered

namespace Follows

variable {accepted answered : List Batch} {origins : Origins} {m : Machine}

theorem start (n : Nat) : Follows [] [] {} { maxBatchSize := n } where
  count := rfl
  waiting := InOrder.nil []
  buffer _ := rfl
  inFlight := .nil
  older := by simp
  answered := .nil

/-- What waits for a table is the batch of its waiting calls. -/
theorem mergedFrom_of_mem_snapshot (f : Follows accepted answered origins m)
    (hs : Dict.Sorted m.buffers) {b : Batch} (hb : b ∈ m.snapshot) :
    MergedFrom accepted (origins.waiting b.table) b := by
  have hnd : (m.snapshot.map (·.table)).Nodup := by
    rw [Machine.map_table_snapshot]
    exact hs.nodup_keys
  have honly := Machine.batchesFor_snapshot hs b.table
  rw [batchesFor_eq_of_mem hnd hb, f.buffer b.table] at honly
  cases hm : merged? ((origins.waiting b.table).map (·.call)) with
  | none => simp [hm] at honly
  | some c =>
    have htable : c.table = b.table := by
      apply table_of_merged? hm
      intro call hcall
      rcases List.mem_map.1 hcall with ⟨x, hx, rfl⟩
      exact (f.waiting b.table).table x hx
    have hbc : b = ⟨b.table, c.schema, c.rows⟩ := by simpa [hm] using honly
    refine ⟨f.waiting b.table, hm.trans ?_⟩
    rw [hbc, ← htable]

/-- A call that is accepted waits behind the others for its table. -/
theorem call_accepted (f : Follows accepted answered origins m) {c : Batch}
    (hne : c.rows ≠ []) :
    Follows (accepted ++ [c]) answered (origins.follow (.call c (.ok ())))
      (m.append c.table c.schema c.rows) where
  count := by simp [Origins.follow, f.count]
  waiting table := by
    by_cases ht : table = c.table
    · subst ht
      simpa [Origins.follow, hne, f.count] using (f.waiting c.table).append_next rfl hne
    · simpa [Origins.follow, ht] using (f.waiting table).extend [c]
  buffer table := by
    by_cases ht : table = c.table
    · subst ht
      simpa [Origins.follow, hne] using Machine.get?_append_of_merged? (f.buffer c.table)
    · simpa [Origins.follow, ht, Machine.append, Dict.get?_insert] using f.buffer table
  inFlight := f.inFlight.imp fun _ _ h => h.extend [c]
  older := by
    intro calls hcalls x hx y hy
    by_cases ht : x.call.table = c.table
    · rw [ht] at hy
      have hy : y ∈ origins.waiting c.table ∨ y = ⟨origins.accepted, c⟩ := by
        simpa [Origins.follow, hne] using hy
      rcases hy with hy | rfl
      · exact f.older calls hcalls x hx y (ht ▸ hy)
      -- The number of the next call is greater than that of any call before it.
      · rcases MergedFrom.exists_of_mem f.inFlight hcalls with ⟨b, -, hb⟩
        simpa [f.count] using hb.number_lt hx
    · exact f.older calls hcalls x hx y (by simpa [Origins.follow, ht] using hy)
  answered := f.answered.imp fun _ _ h => h.extend [c]

/-- A call without rows leaves everything where it is. -/
theorem call_empty (f : Follows accepted answered origins m) {c : Batch} (hnil : c.rows = []) :
    Follows (accepted ++ [c]) answered (origins.follow (.call c (.ok ()))) m where
  count := by simp [Origins.follow, f.count]
  waiting table := by simpa [Origins.follow, hnil] using (f.waiting table).extend [c]
  buffer := by simpa [Origins.follow, hnil] using f.buffer
  inFlight := f.inFlight.imp fun _ _ h => h.extend [c]
  older := by simpa [Origins.follow, hnil] using f.older
  answered := f.answered.imp fun _ _ h => h.extend [c]

theorem call (f : Follows accepted answered origins m) (c : Batch) :
    let written := m.write c.table c.schema c.rows
    Follows (accepted ++ (Occurrence.call c written.1).accepted) answered
      (origins.follow (.call c written.1)) written.2 := by
  by_cases hnil : c.rows = []
  · simpa [Machine.write, hnil, Occurrence.accepted] using f.call_empty hnil
  · cases hc : m.closed with
    | true =>
      rw [Machine.write_of_closed hc hnil]
      simpa [Occurrence.accepted, Origins.follow] using f
    | false => simpa [Machine.write, hnil, hc, Occurrence.accepted] using f.call_accepted hnil

/-- A flush takes off with the calls that wait. -/
theorem takeOff (f : Follows accepted answered origins m) (hs : Dict.Sorted m.buffers)
    (t : Trigger) {order : List Batch} (hperm : order.Perm m.snapshot) :
    Follows accepted answered (origins.follow (.takeOff t order))
      ((t.acknowledge m).beginFlushOf t.isLast order) where
  count := f.count
  waiting := InOrder.nil accepted
  buffer _ := rfl
  inFlight := by
    have hall : ∀ b ∈ order, MergedFrom accepted (origins.waiting b.table) b := by
      intro b hb
      exact f.mergedFrom_of_mem_snapshot hs (hperm.mem_iff.1 hb)
    simpa [Origins.follow, Machine.beginFlushOf, List.forall₂_map_left_iff, List.forall₂_same]
      using hall
  older := by simp [Origins.follow]
  answered := f.answered

/-- The batch in front is delivered, or its calls wait again in front of the newer ones. -/
theorem answer (f : Follows accepted answered origins m) {last : Bool} {b : Batch}
    {rest : List Batch} (hphase : m.phase = .flushing last b rest)
    (hnd : ((b :: rest).map (·.table)).Nodup) (delivered : Bool) :
    Follows accepted (answered ++ [b]) (origins.follow (.answer b delivered))
      (m.resolve delivered) := by
  have hin := f.inFlight
  rw [hphase, Phase.inFlight_flushing] at hin
  rcases List.forall₂_cons_right_iff.1 hin with ⟨front, others, hfront, hothers, heq⟩
  have hans : List.Forall₂ (MergedFrom accepted) (origins.answered ++ [front]) (answered ++ [b]) :=
    List.rel_append f.answered (.cons hfront .nil)
  rw [Machine.resolve_of_flushing hphase]
  cases delivered with
  | true =>
    refine ⟨f.count, f.waiting, f.buffer, ?_, ?_, ?_⟩
    · simpa [Origins.follow, heq] using hothers
    · intro calls hcalls
      exact f.older calls (List.mem_of_mem_tail hcalls)
    · simpa [Origins.follow, heq] using hans
  | false =>
    have hback : ∀ x ∈ front, ∀ y ∈ origins.waiting b.table, x.number < y.number := by
      intro x hx y hy
      exact f.older front (by simp [heq]) x hx y (hfront.table x hx ▸ hy)
    refine ⟨f.count, ?_, ?_, ?_, ?_, ?_⟩
    · intro table
      by_cases ht : table = b.table
      · subst ht
        simpa [Origins.follow, heq] using hfront.toInOrder.append (f.waiting b.table) hback
      · simpa [Origins.follow, ht] using f.waiting table
    · intro table
      by_cases ht : table = b.table
      · subst ht
        simpa [Origins.follow, heq] using
          Machine.get?_restore_of_merged? hfront.merged (f.buffer b.table)
      · simpa [Origins.follow, ht, Machine.restore, Dict.get?_insert] using f.buffer table
    · simpa [Origins.follow, heq] using hothers
    · intro calls hcalls x hx y hy
      have hcalls : calls ∈ others := by simpa [Origins.follow, heq] using hcalls
      -- The batches behind the one in front are for other tables.
      rcases MergedFrom.exists_of_mem hothers hcalls with ⟨b', hb', hmerged⟩
      have hother : x.call.table ≠ b.table := by
        intro hsame
        have htable : b'.table = b.table := (hmerged.table x hx).symm.trans hsame
        exact (List.nodup_cons.1 hnd).1 (List.mem_map.2 ⟨b', hb', htable⟩)
      have hin : calls ∈ origins.inFlight := by simp [heq, hcalls]
      exact f.older calls hin x hx y (by simpa [Origins.follow, hother] using hy)
    · simpa [Origins.follow, heq] using hans

theorem drain (f : Follows accepted answered origins m) (taken : List Batch) :
    Follows accepted answered (origins.follow (.drain taken)) m.drain.2 :=
  ⟨f.count, InOrder.nil accepted, fun _ => rfl, f.inFlight, by simp [Origins.follow], f.answered⟩

/-- The calls stay where the rows are, whatever occurs. -/
theorem occurs (f : Follows accepted answered origins m) (hs : Dict.Sorted m.buffers)
    (hnd : (m.phase.inFlight.map (·.table)).Nodup) {o : Occurrence} {m' : Machine}
    (ho : Occurs m o m') :
    Follows (accepted ++ o.accepted) (answered ++ o.answered) (origins.follow o) m' := by
  cases ho with
  | call c => simpa [Occurrence.answered] using f.call c
  | takeOff t order _ _ hperm =>
    simpa [Occurrence.accepted, Occurrence.answered] using f.takeOff hs t hperm
  | answer last b rest delivered hphase =>
    rw [hphase, Phase.inFlight_flushing] at hnd
    simpa [Occurrence.accepted, Occurrence.answered] using f.answer hphase hnd delivered
  | drain _ => simpa [Occurrence.accepted, Occurrence.answered] using f.drain _

end Follows

theorem follows_of_goes {n : Nat} {os : List Occurrence} {m : Machine}
    (hgo : Goes { maxBatchSize := n } os m) :
    Follows (os.flatMap Occurrence.accepted) (os.flatMap Occurrence.answered) (origins os) m := by
  induction os using List.reverseRecOn generalizing m with
  | nil =>
    cases hgo with
    | nil => exact .start n
  | append_singleton os o ih =>
    rcases goes_append hgo with ⟨before, hbefore, hlast⟩
    rcases exists_history hbefore with ⟨h, hr, rfl, -, -⟩
    have ht := tidy_of_reachable hr
    cases hlast with
    | cons ho hnil =>
      cases hnil with
      | nil =>
        rw [origins_append_singleton]
        simpa using (ih hbefore).occurs ht.sorted ht.nodup ho

/-! ## The newest schema -/

/-- At most one batch waits for a table. What waits, what is in flight and what the driver behind
the buffers was given has at least one row, and carries the schema of the newest call among those
whose rows it holds. -/
theorem batches_carry_newest_schema {maxBatchSize : Nat} {os : List Occurrence} {m : Machine}
    (hgo : Goes { maxBatchSize := maxBatchSize } os m) :
    let accepted := os.flatMap Occurrence.accepted
    (m.snapshot.map (·.table)).Nodup ∧
      (∀ b ∈ m.snapshot, Gathers accepted ((origins os).waiting b.table) b) ∧
      List.Forall₂ (Gathers accepted) (origins os).inFlight m.phase.inFlight ∧
      List.Forall₂ (Gathers accepted) (origins os).answered
        (os.flatMap Occurrence.answered) := by
  intro accepted
  rcases exists_history hgo with ⟨h, hr, rfl, -, -⟩
  have hsorted := (tidy_of_reachable hr).sorted
  have f := follows_of_goes hgo
  refine ⟨?_, fun b hb => (f.mergedFrom_of_mem_snapshot hsorted hb).gathers,
    f.inFlight.imp fun _ _ h => h.gathers, f.answered.imp fun _ _ h => h.gathers⟩
  rw [Machine.map_table_snapshot]
  exact hsorted.nodup_keys

/-- A newer call brings another schema while the batch of an older one is in flight. After the
refusal the older row stands in front, under the newer schema. -/
theorem newest_schema_after_refusal :
    let narrow : Schema := .empty
    let wide : Schema := ⟨[.plain "b" (.scalar .string) true], by simp⟩
    let older : Batch := ⟨"t", narrow, [[("a", .null)]]⟩
    let newer : Batch := ⟨"t", wide, [[("b", .null)]]⟩
    let os : List Occurrence :=
      [.call older (.ok ()), .takeOff .tick [older], .call newer (.ok ()), .answer older false]
    ∃ m, Goes { maxBatchSize := 5 } os m ∧
      m.snapshot = [⟨"t", wide, older.rows ++ newer.rows⟩] ∧
      (origins os).waiting "t" = [⟨0, older⟩, ⟨1, newer⟩] ∧
      Gathers [older, newer] [⟨0, older⟩, ⟨1, newer⟩] ⟨"t", wide, older.rows ++ newer.rows⟩ ∧
      Gathers [older, newer] [⟨0, older⟩] older := by
  intro narrow wide older newer os
  have run : ∃ m, Goes { maxBatchSize := 5 } os m ∧
      m.snapshot = [⟨"t", wide, older.rows ++ newer.rows⟩] := by
    refine ⟨_, .cons (.call _ older) (.cons (.takeOff _ .tick [older] rfl nofun (.refl _))
      (.cons (.call _ newer) (.cons (.answer _ false older [] false rfl) (.nil _)))), ?_⟩
    simp [Machine.write, Machine.append, Machine.resolve, Machine.restore, Machine.beginFlushOf,
      Machine.snapshot, Machine.pendingRows, Dict.insert, Dict.get?, Phase.delivering,
      Trigger.isLast, Trigger.acknowledge, older, newer]
  rcases run with ⟨m, hgo, hsnapshot⟩
  rcases batches_carry_newest_schema hgo with ⟨-, hwaiting, -, hanswered⟩
  have hmerged := hwaiting ⟨"t", wide, older.rows ++ newer.rows⟩ (by simp [hsnapshot])
  exact ⟨m, hgo, hsnapshot, rfl, hmerged, (List.forall₂_cons.1 hanswered).1⟩

end Batching
end Ingest
