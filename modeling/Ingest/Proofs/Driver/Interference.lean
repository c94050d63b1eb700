import Ingest.Driver.Recorder
import Ingest.Proofs.Driver.Course
import Mathlib.Data.List.Nodup

/-!
# Reconciling on a recording driver that others use

Whatever several callers do on one recording driver, tables and columns stay once they are recorded
(`Grows`), and no column is recorded twice (`Consistent`). So a reconciliation takes its course among
others, and of those that race to create a table exactly one creates it.
-/

namespace Ingest

open Driver

namespace Recorder

/-! ## What is recorded -/

/-- The columns by table and name, in the order in which they were recorded. -/
def columns (r : Recorder) : List (String × String) :=
  r.added.map fun e => (e.1, e.2.name)

theorem hasTable_iff {r : Recorder} {table : String} :
    r.hasTable table = true ↔ table ∈ r.created := by
  simp [hasTable]

theorem hasColumn_iff {r : Recorder} {table column : String} :
    r.hasColumn table column = true ↔ (table, column) ∈ r.columns := by
  simp [hasColumn, columns]

/-- What an operation records: a table that was absent, a column that was absent, or nothing. -/
theorem perform_cases (o : Operation) (r : Recorder) :
    (∃ table s, o = .createTable table s ∧ r.hasTable table = false ∧
      (o.perform driver r).2 = { r with
        created := r.created ++ [table]
        added := r.added ++ s.fields.map fun f => (table, f) } ∧
      ∀ t, Exchange.creates t ⟨o, (o.perform driver r).1⟩ = (table == t)) ∨
    (∃ table f, r.hasTable table = true ∧ r.hasColumn table f.name = false ∧
      (o.perform driver r).2 = { r with added := r.added ++ [(table, f)] } ∧
      ∀ t, Exchange.creates t ⟨o, (o.perform driver r).1⟩ = false) ∨
    ((o.perform driver r).2.created = r.created ∧ (o.perform driver r).2.added = r.added ∧
      ∀ t, Exchange.creates t ⟨o, (o.perform driver r).1⟩ = false) := by
  cases o with
  | createTable table s =>
    cases htable : r.hasTable table with
    | true =>
      have hrun : (Operation.createTable table s).perform driver r =
          (.error (.tableAlreadyExists table), r) := if_pos htable
      rw [hrun]
      exact .inr (.inr ⟨rfl, rfl, fun _ => rfl⟩)
    | false =>
      have hrun : (Operation.createTable table s).perform driver r =
          (.ok (), { r with
            created := r.created ++ [table]
            added := r.added ++ s.fields.map fun f => (table, f) }) := by
        simp [Operation.perform, driver, Recorder.createTable, htable]
      rw [hrun]
      exact .inl ⟨table, s, rfl, htable, rfl, fun _ => rfl⟩
  | addColumn table f =>
    cases htable : r.hasTable table with
    | false =>
      have hrun : (Operation.addColumn table f).perform driver r =
          (.error (.tableNotFound table), r) := by
        simp [Operation.perform, driver, Recorder.addColumn, htable]
      rw [hrun]
      exact .inr (.inr ⟨rfl, rfl, fun _ => rfl⟩)
    | true =>
      cases hcolumn : r.hasColumn table f.name with
      | true =>
        have hrun : (Operation.addColumn table f).perform driver r =
            (.error (.columnAlreadyExists table f.name), r) := by
          simp [Operation.perform, driver, Recorder.addColumn, htable, hcolumn]
        rw [hrun]
        exact .inr (.inr ⟨rfl, rfl, fun _ => rfl⟩)
      | false =>
        have hrun : (Operation.addColumn table f).perform driver r =
            (.ok (), { r with added := r.added ++ [(table, f)] }) := by
          simp [Operation.perform, driver, Recorder.addColumn, htable, hcolumn]
        rw [hrun]
        exact .inr (.inl ⟨table, f, htable, hcolumn, rfl, fun _ => rfl⟩)
  | missingColumns table s =>
    have hsame : ((Operation.missingColumns table s).perform driver r).2 = r := by
      change (Recorder.missingColumns table s r).2 = r
      unfold Recorder.missingColumns
      split <;> rfl
    rw [hsame]
    exact .inr (.inr ⟨rfl, rfl, fun _ => rfl⟩)
  | write table s rows =>
    refine .inr (.inr ?_)
    change (Recorder.write table s rows r).2.created = r.created ∧
      (Recorder.write table s rows r).2.added = r.added ∧ _
    unfold Recorder.write
    refine ⟨?_, ?_, fun _ => rfl⟩
    · split
      · rfl
      · split <;> rfl
    · split
      · rfl
      · split <;> rfl

/-! ## What stays -/

/-- Columns are recorded for tables that exist, and each of them once. -/
structure Consistent (r : Recorder) : Prop where
  existing : ∀ key ∈ r.columns, r.hasTable key.1 = true
  distinct : r.columns.Nodup

/-- Nothing that is recorded goes away. -/
structure Grows (r r' : Recorder) : Prop where
  tables : ∀ table, r.hasTable table = true → r'.hasTable table = true
  recorded : ∀ key ∈ r.columns, key ∈ r'.columns
  consistent : Consistent r → Consistent r'

theorem Grows.refl (r : Recorder) : Grows r r :=
  ⟨fun _ => id, fun _ => id, id⟩

theorem Grows.trans {r r' r'' : Recorder} (h : Grows r r') (h' : Grows r' r'') : Grows r r'' where
  tables table ht := h'.tables table (h.tables table ht)
  recorded key hkey := h'.recorded key (h.recorded key hkey)
  consistent hr := h'.consistent (h.consistent hr)

theorem Grows.of_same {r r' : Recorder} (hcreated : r'.created = r.created)
    (hadded : r'.added = r.added) : Grows r r' := by
  have hcolumns : r'.columns = r.columns := by rw [columns, columns, hadded]
  have htables : ∀ table, r'.hasTable table = r.hasTable table := by
    intro table
    rw [hasTable, hasTable, hcreated]
  refine ⟨?_, ?_, ?_⟩
  · intro table ht
    exact (htables table).trans ht
  · intro key hkey
    exact hcolumns ▸ hkey
  · intro hr
    refine ⟨?_, hcolumns ▸ hr.distinct⟩
    intro key hkey
    rw [htables]
    exact hr.existing key (hcolumns ▸ hkey)

theorem grows_createTable {r : Recorder} {table : String} (h : r.hasTable table = false)
    (s : Schema) :
    Grows r { r with
      created := r.created ++ [table]
      added := r.added ++ s.fields.map fun f => (table, f) } := by
  have hcolumns : columns { r with
      created := r.created ++ [table]
      added := r.added ++ s.fields.map fun f => (table, f) } =
        r.columns ++ (s.fields.map (·.name)).map (Prod.mk table) := by
    simp [columns, Function.comp_def]
  refine ⟨?_, ?_, ?_⟩
  · intro t ht
    exact hasTable_iff.2 (List.mem_append_left _ (hasTable_iff.1 ht))
  · intro key hkey
    rw [hcolumns]
    exact List.mem_append_left _ hkey
  · intro hr
    constructor
    · intro key hkey
      rw [hcolumns] at hkey
      apply hasTable_iff.2
      rcases List.mem_append.1 hkey with hkey | hkey
      · exact List.mem_append_left _ (hasTable_iff.1 (hr.existing key hkey))
      · rcases List.mem_map.1 hkey with ⟨name, -, rfl⟩
        exact List.mem_append_right _ (List.mem_singleton.2 rfl)
    · rw [hcolumns, List.nodup_append]
      refine ⟨hr.distinct, List.Nodup.map (fun _ _ h => (Prod.mk.inj h).2) s.nodup, ?_⟩
      -- A table that did not exist has no columns yet.
      rintro key hkey _ hnew rfl
      rcases List.mem_map.1 hnew with ⟨name, -, rfl⟩
      have ht := hr.existing _ hkey
      rw [h] at ht
      cases ht

theorem grows_addColumn {r : Recorder} {table : String} {f : Field}
    (htable : r.hasTable table = true) (hcolumn : r.hasColumn table f.name = false) :
    Grows r { r with added := r.added ++ [(table, f)] } := by
  have hcolumns : columns { r with added := r.added ++ [(table, f)] } =
      r.columns ++ [(table, f.name)] := by
    simp [columns]
  have hnew : (table, f.name) ∉ r.columns := by
    intro hmem
    rw [hasColumn_iff.2 hmem] at hcolumn
    cases hcolumn
  refine ⟨fun _ => id, ?_, ?_⟩
  · intro key hkey
    rw [hcolumns]
    exact List.mem_append_left _ hkey
  · intro hr
    constructor
    · intro key hkey
      rw [hcolumns] at hkey
      rcases List.mem_append.1 hkey with hkey | hkey
      · exact hr.existing key hkey
      · cases List.mem_singleton.1 hkey
        exact htable
    · rw [hcolumns, ← List.concat_eq_append]
      exact List.Nodup.concat hnew hr.distinct

/-- Whatever is done, what was recorded stays. -/
theorem grows_perform (o : Operation) (r : Recorder) : Grows r (o.perform driver r).2 := by
  rcases perform_cases o r with
    ⟨table, s, -, h, hr, -⟩ | ⟨table, f, htable, hcolumn, hr, -⟩ | ⟨hcreated, hadded, -⟩
  · rw [hr]
    exact grows_createTable h s
  · rw [hr]
    exact grows_addColumn htable hcolumn
  · exact .of_same hcreated hadded

/-- The states of a recording driver that operations lead to. -/
inductive Reachable : Recorder → Prop
  | new : Reachable {}
  | perform {r : Recorder} (o : Operation) : Reachable r → Reachable (o.perform driver r).2
  | failNext {r : Recorder} (n : Nat) : Reachable r → Reachable (r.failNext n)

theorem consistent_of_reachable {r : Recorder} (h : Reachable r) : Consistent r := by
  induction h with
  | new => exact ⟨nofun, List.nodup_nil⟩
  | perform o _ ih => exact (grows_perform o _).consistent ih
  | @failNext r n _ ih =>
    have hgrows : Grows r (r.failNext n) := .of_same rfl rfl
    exact hgrows.consistent ih

/-! ## The course of a reconciliation -/

/-- The table exists and has a column for each field that is not among the missing ones. -/
structure Lacks (table : String) (s : Schema) (missing : List Field) (r : Recorder) : Prop where
  consistent : Consistent r
  existing : r.hasTable table = true
  covered : ∀ f ∈ s.fields, f ∈ missing ∨ (table, f.name) ∈ r.columns

theorem Lacks.grows {table : String} {s : Schema} {missing : List Field} {r r' : Recorder}
    (l : Lacks table s missing r) (h : Grows r r') : Lacks table s missing r' where
  consistent := h.consistent l.consistent
  existing := h.tables table l.existing
  covered f hf := (l.covered f hf).imp_right (h.recorded _)

/-- A column that is there now is not lacking any more. -/
theorem Lacks.tail {table : String} {s : Schema} {f : Field} {rest : List Field} {r : Recorder}
    (l : Lacks table s (f :: rest) r) (h : (table, f.name) ∈ r.columns) :
    Lacks table s rest r where
  consistent := l.consistent
  existing := l.existing
  covered := covered_of_cons l.covered h

theorem missingColumns_of_table {table : String} {r : Recorder} (h : r.hasTable table = true)
    (hr : Consistent r) (s : Schema) :
    ∃ missing, (driver.missingColumns table s).run r = (.ok missing, r) ∧
      missing.length ≤ s.fields.length ∧ Lacks table s missing r := by
  refine ⟨s.fields.filter fun f => !r.hasColumn table f.name, ?_, List.length_filter_le _ _, hr, h,
    ?_⟩
  · change Recorder.missingColumns table s r = _
    simp [Recorder.missingColumns, h]
  · intro f hf
    cases hcolumn : r.hasColumn table f.name with
    | true => exact .inr (hasColumn_iff.1 hcolumn)
    | false => exact .inl (List.mem_filter.2 ⟨hf, by simp [hcolumn]⟩)

theorem course (table : String) (s : Schema) :
    Course driver Grows table s Consistent (fun r => Consistent r ∧ r.hasTable table = true)
      (Lacks table s) (fun _ _ => False) where
  overtakenBefore hr h := h.consistent hr
  overtakenExisting hr h := ⟨h.consistent hr.1, h.tables table hr.2⟩
  overtakenLacking l h := l.grows h
  look := by
    intro r hr
    cases htable : r.hasTable table with
    | false =>
      refine .inl ⟨table, r, ?_, hr⟩
      change Recorder.missingColumns table s r = _
      simp [Recorder.missingColumns, htable]
    | true =>
      rcases missingColumns_of_table htable hr s with ⟨missing, hrun, hlength, l⟩
      exact .inr ⟨missing, r, hrun, hlength, l⟩
  create := by
    intro r hr
    cases htable : r.hasTable table with
    | true => exact .inr ⟨table, r, if_pos htable, hr, htable⟩
    | false =>
      have hgrows := grows_createTable htable s
      refine .inl ⟨_, if_neg (by simp [htable]), hgrows.consistent hr, ?_, ?_⟩
      · exact hasTable_iff.2 (List.mem_append_right _ (List.mem_singleton.2 rfl))
      · intro f hf
        refine .inr (List.mem_map.2 ⟨(table, f), ?_, rfl⟩)
        exact List.mem_append_right _ (List.mem_map_of_mem hf)
  lookAgain := by
    rintro r ⟨hr, htable⟩
    rcases missingColumns_of_table htable hr s with ⟨missing, hrun, hlength, l⟩
    exact ⟨missing, r, hrun, hlength, l⟩
  add := by
    intro f rest r l
    cases hcolumn : r.hasColumn table f.name with
    | true =>
      refine .inr (.inl ⟨table, f.name, r, ?_, l.tail (hasColumn_iff.1 hcolumn)⟩)
      change Recorder.addColumn table f r = _
      simp [Recorder.addColumn, l.existing, hcolumn]
    | false =>
      have hgrows := grows_addColumn l.existing hcolumn
      refine .inl ⟨{ r with added := r.added ++ [(table, f)] }, ?_, (l.grows hgrows).tail ?_⟩
      · change Recorder.addColumn table f r = _
        simp [Recorder.addColumn, l.existing, hcolumn]
      · simp [columns]

/-! ## Who created a table -/

theorem hasTable_perform (o : Operation) (r : Recorder) (table : String) :
    (o.perform driver r).2.hasTable table =
      (r.hasTable table || Exchange.creates table ⟨o, (o.perform driver r).1⟩) := by
  rcases perform_cases o r with
    ⟨t, s, -, -, hr, hcreates⟩ | ⟨t, f, -, -, hr, hcreates⟩ | ⟨hcreated, -, hcreates⟩
  · rw [hr, hcreates]
    simp [hasTable]
  · rw [hr, hcreates]
    simp [hasTable]
  · rw [hcreates, hasTable, hcreated]
    simp [hasTable]

/-- Only an operation that creates a table which was absent creates it. -/
theorem absent_of_creates {o : Operation} {r : Recorder} {table : String}
    (h : Exchange.creates table ⟨o, (o.perform driver r).1⟩ = true) :
    r.hasTable table = false ∧ ∃ s, o = .createTable table s := by
  rcases perform_cases o r with
    ⟨t, s, ho, habsent, -, hcreates⟩ | ⟨t, f, -, -, -, hcreates⟩ | ⟨-, -, hcreates⟩
  · rw [hcreates, beq_iff_eq] at h
    subst h
    exact ⟨habsent, s, ho⟩
  · rw [hcreates] at h
    cases h
  · rw [hcreates] at h
    cases h

section Creators

variable {ι α : Type} {table : String} {sc : Scene ι Recorder α}

/-- A caller of a scene has created the table. -/
def Created (table : String) (sc : Scene ι Recorder α) (i : ι) : Prop :=
  ∃ x ∈ sc.exchanges i, x.creates table = true

/-- A table that is absent was created by no caller, and one that exists by exactly one. -/
structure OneCreator (table : String) (sc : Scene ι Recorder α) : Prop where
  absent : sc.server.hasTable table = false → ∀ i, ¬ Created table sc i
  unique : sc.server.hasTable table = true → ∃! i, Created table sc i

/-- What changes neither whether the table exists nor who has created it. -/
theorem OneCreator.of_same {sc' : Scene ι Recorder α} (h : OneCreator table sc)
    (htable : sc'.server.hasTable table = sc.server.hasTable table)
    (hcreated : ∀ i, Created table sc' i ↔ Created table sc i) : OneCreator table sc' := by
  have hsame : Created table sc' = Created table sc := funext fun i => propext (hcreated i)
  constructor
  · rw [htable, hsame]
    exact h.absent
  · rw [htable, hsame]
    exact h.unique

variable [DecidableEq ι]

theorem OneCreator.turn (h : OneCreator table sc) {x : Turn ι}
    (hx : ∀ s, x ≠ .outsider (.createTable table s)) :
    OneCreator table (sc.turn driver x) := by
  cases x with
  | outsider o =>
    refine h.of_same ?_ fun i => .rfl
    cases hcreates : Exchange.creates table ⟨o, (o.perform driver sc.server).1⟩ with
    | true =>
      rcases absent_of_creates hcreates with ⟨-, s, rfl⟩
      exact absurd rfl (hx s)
    | false =>
      change (o.perform driver sc.server).2.hasTable table = _
      rw [hasTable_perform, hcreates, Bool.or_false]
  | caller j =>
    simp only [Scene.turn]
    cases hj : sc.callers j with
    | done a => exact h
    | asks o next =>
      have htable := hasTable_perform o sc.server table
      -- Only the exchanges of this caller change, by the one that is new.
      have hother : ∀ i, i ≠ j → Function.update sc.exchanges j (sc.exchanges j ++
          [⟨o, (o.perform driver sc.server).1⟩]) i = sc.exchanges i := by
        intro i hi
        exact Function.update_of_ne hi _ _
      cases hcreates : Exchange.creates table ⟨o, (o.perform driver sc.server).1⟩ with
      | true =>
        rw [hcreates, Bool.or_true] at htable
        have hnone := h.absent (absent_of_creates hcreates).1
        refine ⟨fun habsent => ?_, fun _ => ⟨j, ?_, ?_⟩⟩
        · rw [htable] at habsent
          cases habsent
        · exact ⟨_, by simp, hcreates⟩
        · rintro i ⟨x, hx, hxcreates⟩
          by_contra hi
          simp only [hother i hi] at hx
          exact hnone i ⟨x, hx, hxcreates⟩
      | false =>
        rw [hcreates, Bool.or_false] at htable
        refine h.of_same htable ?_
        intro i
        by_cases hi : i = j
        · subst hi
          simp [Created, or_and_right, exists_or, hcreates]
        · simp only [Created, hother i hi]

theorem OneCreator.run (h : OneCreator table sc) {turns : List (Turn ι)}
    (hturns : ∀ s, .outsider (.createTable table s) ∉ turns) :
    OneCreator table (sc.run driver turns) := by
  induction turns generalizing sc with
  | nil => exact h
  | cons x turns ih =>
    refine ih (h.turn ?_) ?_
    · intro s hx
      exact hturns s (hx ▸ List.mem_cons_self)
    · intro s hmem
      exact hturns s (List.mem_cons_of_mem x hmem)

end Creators

/-! ## Several callers -/

theorem Lacks.count_eq_one {table : String} {s : Schema} {r : Recorder} (l : Lacks table s [] r)
    {f : Field} (hf : f ∈ s.fields) : r.columns.count (table, f.name) = 1 := by
  rcases l.covered f hf with hmem | hmem
  · cases hmem
  · exact List.count_eq_one_of_mem l.consistent.distinct hmem

/-- What others do on a recording driver spoils no result. -/
theorem allows (table : String) (s : Schema) :
    Scene.Allows driver Grows (Finished table (Lacks table s []) fun _ _ => False) where
  refl := .refl
  trans _ _ _ h h' := h.trans h'
  perform := grows_perform
  post := by
    intro answer log r r' hfinished hgrows
    cases answer with
    | ok result => exact ⟨hfinished.1, hfinished.2.grows hgrows⟩
    | error e => exact hfinished

section Callers

variable {ι : Type} [DecidableEq ι] {sc : Scene ι Recorder (Outcome (Option Reconciled))} {i : ι}
  {table : String} {s : Schema} {rounds : Nat}

theorem ends_run (hr : Consistent sc.server)
    (hcaller : sc.callers i = Caller.reconciling table s (rounds + 2))
    (hlog : sc.exchanges i = []) (turns : List (Turn ι)) :
    ((sc.run driver turns).callers i).Ends driver Grows
      (Finished table (Lacks table s []) fun _ _ => False)
      (s.fields.length + 3 - Scene.turnsOf i turns) ((sc.run driver turns).exchanges i)
      (sc.run driver turns).server := by
  refine (allows table s).run ?_ turns
  rw [hcaller, hlog]
  exact (course table s).ends hr rounds

/-- A caller that has had its turns is done. -/
theorem exists_done (hr : Consistent sc.server)
    (hcaller : sc.callers i = Caller.reconciling table s (rounds + 2))
    (hlog : sc.exchanges i = []) {turns : List (Turn ι)}
    (hturns : s.fields.length + 3 ≤ Scene.turnsOf i turns) :
    ∃ answer, (sc.run driver turns).callers i = .done answer := by
  have hends := ends_run hr hcaller hlog turns
  rw [Nat.sub_eq_zero_of_le hturns] at hends
  exact hends.exists_done

/-- A caller that is done has succeeded. -/
theorem finished_of_done (hr : Consistent sc.server)
    (hcaller : sc.callers i = Caller.reconciling table s (rounds + 2))
    (hlog : sc.exchanges i = []) {turns : List (Turn ι)} {answer : Outcome (Option Reconciled)}
    (hanswer : (sc.run driver turns).callers i = .done answer) :
    ∃ result, answer = .ok (some result) ∧
      Reports table ((sc.run driver turns).exchanges i) result ∧
      Lacks table s [] (sc.run driver turns).server := by
  have hfinished := ends_run hr hcaller hlog turns
  rw [hanswer] at hfinished
  cases answer with
  | ok result =>
    rcases hfinished with ⟨⟨r, rfl, hreports⟩, l⟩
    exact ⟨r, rfl, hreports, l⟩
  | error e => exact hfinished.elim

/-- Of callers that race for a table which nobody else creates, exactly one creates it. -/
theorem exists_unique_created [Nonempty ι] (hr : Consistent sc.server)
    (habsent : sc.server.hasTable table = false)
    (hcallers : ∀ i, sc.exchanges i = [] ∧
      ∃ s rounds, sc.callers i = Caller.reconciling table s (rounds + 2))
    {turns : List (Turn ι)} (hothers : ∀ s, .outsider (.createTable table s) ∉ turns)
    (hall : ∀ i, ∃ answer, (sc.run driver turns).callers i = .done answer) :
    ∃! i, (sc.run driver turns).callers i = .done (.ok (some .created)) := by
  have hstart : OneCreator table sc := by
    constructor
    · rintro - i ⟨x, hx, -⟩
      rw [(hcallers i).1] at hx
      cases hx
    · intro htable
      rw [habsent] at htable
      cases htable
  have hcreator : OneCreator table (sc.run driver turns) := hstart.run hothers
  -- The result of a caller tells whether it is the one.
  have hfinished : ∀ i, ((sc.run driver turns).callers i = .done (.ok (some .created)) ↔
      Created table (sc.run driver turns) i) ∧
        (sc.run driver turns).server.hasTable table = true := by
    intro i
    rcases hcallers i with ⟨hlog, s, rounds, hcaller⟩
    rcases hall i with ⟨answer, hanswer⟩
    rcases finished_of_done hr hcaller hlog hanswer with ⟨result, rfl, hreports, l⟩
    refine ⟨?_, l.existing⟩
    rw [hanswer, Created, ← hreports.created]
    simp
  rcases ‹Nonempty ι› with ⟨i₀⟩
  rcases hcreator.unique (hfinished i₀).2 with ⟨i, hi, hunique⟩
  refine ⟨i, (hfinished i).1.2 hi, ?_⟩
  intro j hj
  exact hunique j ((hfinished j).1.1 hj)

end Callers

/-! ## Among others -/

/-- Whatever others do on a recording driver, a reconciliation comes to an end and succeeds, its
result tells what it did, and the table has each column of the schema once. Of several that race
for a table that nobody else creates, exactly one creates it. -/
theorem reconcile_among_others {ι : Type} [DecidableEq ι]
    (sc : Scene ι Recorder (Outcome (Option Reconciled))) (hr : Reachable sc.server)
    (turns : List (Turn ι)) :
    let after := sc.run driver turns
    (∀ i table s rounds, sc.callers i = Caller.reconciling table s (rounds + 2) →
        sc.exchanges i = [] →
      (s.fields.length + 3 ≤ Scene.turnsOf i turns → ∃ answer, after.callers i = .done answer) ∧
      ∀ answer, after.callers i = .done answer →
        (∃ result, answer = .ok (some result) ∧ Reports table (after.exchanges i) result) ∧
        after.server.hasTable table = true ∧
        ∀ f ∈ s.fields, after.server.columns.count (table, f.name) = 1) ∧
    ∀ table, Nonempty ι → sc.server.hasTable table = false →
      (∀ i, sc.exchanges i = [] ∧
        ∃ s rounds, sc.callers i = Caller.reconciling table s (rounds + 2)) →
      (∀ s, .outsider (.createTable table s) ∉ turns) →
      (∀ i, ∃ answer, after.callers i = .done answer) →
        ∃! i, after.callers i = .done (.ok (some .created)) := by
  intro after
  have hconsistent := consistent_of_reachable hr
  constructor
  · intro i table s rounds hcaller hlog
    refine ⟨exists_done hconsistent hcaller hlog, ?_⟩
    intro answer hanswer
    rcases finished_of_done hconsistent hcaller hlog hanswer with ⟨result, hresult, hreports, l⟩
    exact ⟨⟨result, hresult, hreports⟩, l.existing, fun f hf => l.count_eq_one hf⟩
  · intro table _ habsent hcallers hothers hall
    exact exists_unique_created hconsistent habsent hcallers hothers hall

namespace Race

def narrow : Schema :=
  ⟨[.plain "a" (.scalar .int32) true], by decide⟩

def wide : Schema :=
  ⟨[.plain "a" (.scalar .int32) true, .plain "b" (.scalar .int32) true], by decide⟩

/-- Two callers at the start of a race for a table. -/
def start : Scene Bool Recorder (Outcome (Option Reconciled)) where
  callers i := Caller.reconciling "t" (if i then wide else narrow) 2
  exchanges _ := []
  server := {}

def turns : List (Turn Bool) :=
  [.caller true, .caller false, .caller false, .caller true,
    .outsider (.addColumn "t" (.plain "c" (.scalar .int32) true)), .caller true, .caller true]

end Race

/-- The slower caller of a race adds the column that the faster one did not have, while an outsider
adds another. -/
theorem reconcile_among_others_race :
    let after := Race.start.run driver Race.turns
    after.callers true = .done (.ok (some (.columnsAdded 1))) ∧
      Reports "t" (after.exchanges true) (.columnsAdded 1) ∧
      after.server.columns.count ("t", "b") = 1 ∧
      ∃! i, after.callers i = .done (.ok (some .created)) := by
  intro after
  have both := reconcile_among_others Race.start .new Race.turns
  have hcallers : ∀ i, Race.start.exchanges i = [] ∧
      ∃ s rounds, Race.start.callers i = Caller.reconciling "t" s (rounds + 2) := by
    intro i
    exact ⟨rfl, if i then Race.wide else Race.narrow, 0, rfl⟩
  have hadded : after.callers true = .done (.ok (some (.columnsAdded 1))) := rfl
  have hcreated : after.callers false = .done (.ok (some .created)) := rfl
  have hall : ∀ i, ∃ answer, after.callers i = .done answer := by
    intro i
    cases i with
    | true => exact ⟨_, hadded⟩
    | false => exact ⟨_, hcreated⟩
  have hothers : ∀ s, .outsider (.createTable "t" s) ∉ Race.turns := by simp [Race.turns]
  rcases (both.1 true "t" Race.wide 0 rfl rfl).2 _ hadded with
    ⟨⟨result, hresult, hreports⟩, -, hcount⟩
  cases hresult
  exact ⟨hadded, hreports, hcount (.plain "b" (.scalar .int32) true) (by simp [Race.wide]),
    both.2 "t" ⟨true⟩ rfl hcallers hothers hall⟩

end Recorder
end Ingest
