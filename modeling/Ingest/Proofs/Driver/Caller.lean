import Ingest.Proofs.Driver.Reconciliation
import Mathlib.Logic.Function.Basic

/-!
# Callers that share a driver

A computation over drivers can be read as a caller that asks one operation after the other and goes
on with the answers (`Caller`). Between two operations of a caller others may do something. `Ends`
says that a caller comes to its end all the same, with what can be relied on about the others and a
bound for the operations that are left. In a `Scene` several callers take turns on one driver.
-/

namespace Ingest
namespace Driver

/-! ## Operations as data -/

/-- An operation of a driver. -/
inductive Operation where
  | createTable (table : String) (schema : Schema)
  | addColumn (table : String) (field : Field)
  | missingColumns (table : String) (schema : Schema)
  | write (table : String) (schema : Schema) (rows : List Row)

namespace Operation

/-- What an operation that succeeds answers. -/
abbrev Answer : Operation → Type
  | missingColumns _ _ => List Field
  | _ => Unit

def perform {m : Type → Type} (d : Driver m) : (o : Operation) → m (Outcome o.Answer)
  | createTable table schema => (d.createTable table schema).run
  | addColumn table field => (d.addColumn table field).run
  | missingColumns table schema => (d.missingColumns table schema).run
  | write table schema rows => (d.write table schema rows).run

end Operation

/-- An operation that was performed, with its answer. -/
structure Exchange where
  operation : Operation
  answer : Outcome operation.Answer

/-! ## Callers -/

/-- A computation that asks for operations. -/
inductive Caller (α : Type) where
  | done (a : α)
  | asks (o : Operation) (next : Outcome o.Answer → Caller α)

namespace Caller

variable {α β : Type}

def bind (f : α → Caller β) : Caller α → Caller β
  | done a => f a
  | asks o next => asks o fun answer => (next answer).bind f

instance : Monad Caller where
  pure := done
  bind c f := c.bind f

/-- Each operation is asked for as it is. -/
def asking : Driver Caller where
  createTable table schema := ExceptT.mk (asks (.createTable table schema) done)
  addColumn table field := ExceptT.mk (asks (.addColumn table field) done)
  missingColumns table schema := ExceptT.mk (asks (.missingColumns table schema) done)
  write table schema rows := ExceptT.mk (asks (.write table schema rows) done)

/-- A call that reconciles a table with a schema. -/
def reconciling (table : String) (s : Schema) (rounds : Nat) :
    Caller (Outcome (Option Reconciled)) :=
  (asking.reconcile (fun _ => done ()) table s rounds).run

/-! ## A caller alone -/

section Alone

variable {τ : Type} (d : Driver (StateM τ))

/-- The caller with a driver of its own. -/
def interpret : Caller α → StateM τ α
  | done a => pure a
  | asks o next => do interpret (next (← o.perform d))

theorem interpret_bind (c : Caller α) (f : α → Caller β) :
    interpret d (c >>= f) = interpret d c >>= fun a => interpret d (f a) := by
  induction c with
  | done a => rfl
  | asks o next ih =>
    funext t
    exact congrFun (ih (o.perform d t).1) (o.perform d t).2

/-- One computation asks for what the other does. -/
def Mirrors (x : ExceptT Failure Caller α) (y : ExceptT Failure (StateM τ) α) : Prop :=
  interpret d x.run = y.run

variable {d}

namespace Mirrors

theorem pure (a : α) : Mirrors d (pure a) (pure a) :=
  rfl

theorem throw (e : Failure) : Mirrors d (throw e : ExceptT Failure Caller α) (throw e) :=
  rfl

theorem bind {x : ExceptT Failure Caller α} {y : ExceptT Failure (StateM τ) α}
    {f : α → ExceptT Failure Caller β} {g : α → ExceptT Failure (StateM τ) β}
    (hxy : Mirrors d x y) (hfg : ∀ a, Mirrors d (f a) (g a)) : Mirrors d (x >>= f) (y >>= g) := by
  have hnext : (fun answer => interpret d (ExceptT.bindCont f answer)) =
      ExceptT.bindCont (m := StateM τ) g := by
    funext answer
    cases answer with
    | ok a => exact hfg a
    | error e => rfl
  calc
    interpret d (x >>= f).run
        = interpret d x.run >>= fun answer => interpret d (ExceptT.bindCont f answer) :=
          interpret_bind d x.run (ExceptT.bindCont f)
    _ = y.run >>= ExceptT.bindCont g := by rw [hxy, hnext]

theorem attempt {x : ExceptT Failure Caller α} {y : ExceptT Failure (StateM τ) α}
    (h : Mirrors d x y) : Mirrors d (attempt x) (attempt y) := by
  calc
    interpret d (Driver.attempt x).run
        = interpret d x.run >>= fun answer => interpret d (done (Except.ok answer)) :=
          interpret_bind d x.run fun answer => done (Except.ok answer)
    _ = (Driver.attempt y).run := by
      rw [h]
      rfl

end Mirrors

theorem mirrors_addMissing (table : String) (f : Field) :
    Mirrors d (asking.addMissing (fun _ => done ()) table f) (d.addMissing quiet table f) := by
  refine .bind (.attempt rfl) ?_
  intro answer
  cases answer with
  | ok u => exact .pure 1
  | error e =>
    cases e with
    | columnAlreadyExists t column => rfl
    | _ => exact .throw _

theorem mirrors_addAllMissing (table : String) (missing : List Field) :
    Mirrors d (asking.addAllMissing (fun _ => done ()) table missing)
      (d.addAllMissing quiet table missing) := by
  induction missing with
  | nil => exact .pure 0
  | cons f rest ih =>
    refine .bind (mirrors_addMissing table f) ?_
    intro here
    exact .bind ih fun there => .pure (here + there)

theorem mirrors_extend (table : String) (missing : List Field) :
    Mirrors d (asking.extend (fun _ => done ()) table missing) (d.extend quiet table missing) := by
  refine .bind (mirrors_addAllMissing table missing) ?_
  intro added
  by_cases hadded : added = 0
  · simp only [if_pos hadded]
    exact .pure _
  · simp only [if_neg hadded]
    rfl

/-- With a driver of its own, the caller that reconciles is the reconciliation. -/
theorem interpret_reconciling (table : String) (s : Schema) (rounds : Nat) :
    interpret d (reconciling table s rounds) = (d.reconcile quiet table s rounds).run := by
  change Mirrors d (asking.reconcile (fun _ => done ()) table s rounds) (d.reconcile quiet table s rounds)
  induction rounds with
  | zero => exact .pure none
  | succ rounds ih =>
    refine .bind (.attempt rfl) ?_
    intro found
    cases found with
    | ok missing => exact .bind (mirrors_extend table missing) fun result => .pure (some result)
    | error e =>
      cases e with
      | tableNotFound t =>
        refine .bind (.attempt rfl) ?_
        intro created
        cases created with
        | ok u => exact .pure (some Reconciled.created)
        | error e =>
          cases e with
          | tableAlreadyExists t => exact ih
          | _ => exact .throw _
      | _ => exact .throw _

end Alone

/-! ## A caller among others -/

section Among

variable {τ : Type} (d : Driver (StateM τ)) (Others : τ → τ → Prop)
  (Post : α → List Exchange → τ → Prop)

/-- A caller that has made some exchanges comes to an end with at most so many more, whatever others
do before each of them, and then the postcondition holds. -/
def Ends : Caller α → Nat → List Exchange → τ → Prop
  | done a, _, log, t => Post a log t
  | asks _ _, 0, _, _ => False
  | asks o next, n + 1, log, t =>
    ∀ t', Others t t' →
      Ends (next (o.perform d t').1) n (log ++ [⟨o, (o.perform d t').1⟩]) (o.perform d t').2

variable {d Others Post}

theorem Ends.mono {Post' : α → List Exchange → τ → Prop} {c : Caller α} {n n' : Nat}
    {log : List Exchange} {t : τ} (h : Ends d Others Post c n log t) (hn : n ≤ n')
    (hpost : ∀ a log t, Post a log t → Post' a log t) : Ends d Others Post' c n' log t := by
  induction c generalizing n n' log t with
  | done a => exact hpost a log t h
  | asks o next ih =>
    cases n with
    | zero => exact h.elim
    | succ n =>
      cases n' with
      | zero => exact absurd hn (Nat.not_succ_le_zero n)
      | succ n' =>
        intro t' ht'
        exact ih _ (h t' ht') (Nat.le_of_succ_le_succ hn)

theorem Ends.bind {Mid : β → List Exchange → τ → Prop} {c : Caller β} {f : β → Caller α}
    {n m : Nat} {log : List Exchange} {t : τ} (h : Ends d Others Mid c n log t)
    (hf : ∀ b log t, Mid b log t → Ends d Others Post (f b) m log t) :
    Ends d Others Post (c >>= f) (n + m) log t := by
  induction c generalizing n log t with
  | done b => exact (hf b log t h).mono (Nat.le_add_left m n) fun _ _ _ => id
  | asks o next ih =>
    cases n with
    | zero => exact h.elim
    | succ n =>
      rw [Nat.succ_add]
      intro t' ht'
      exact ih _ (h t' ht')

/-- What fails ends there, and what succeeds goes on. -/
theorem Ends.bindExcept {Mid : Outcome β → List Exchange → τ → Prop}
    {Post : Outcome α → List Exchange → τ → Prop} {x : ExceptT Failure Caller β}
    {f : β → ExceptT Failure Caller α} {n m : Nat} {log : List Exchange} {t : τ}
    (h : Ends d Others Mid x.run n log t)
    (hok : ∀ b log t, Mid (.ok b) log t → Ends d Others Post (f b).run m log t)
    (herror : ∀ e log t, Mid (.error e) log t → Post (.error e) log t) :
    Ends d Others Post (x >>= f).run (n + m) log t := by
  refine Ends.bind (f := ExceptT.bindCont f) h ?_
  intro answer log t hmid
  cases answer with
  | ok b => exact hok b log t hmid
  | error e => exact herror e log t hmid

/-- A caller alone runs to its end. -/
theorem Ends.interpret {c : Caller α} {n : Nat} {log : List Exchange} {t : τ}
    (h : Ends d Others Post c n log t) (hrefl : ∀ t, Others t t) :
    ∃ log', Post (c.interpret d t).1 log' (c.interpret d t).2 := by
  induction c generalizing n log t with
  | done a => exact ⟨log, h⟩
  | asks o next ih =>
    cases n with
    | zero => exact h.elim
    | succ n => exact ih _ (h t (hrefl t))

/-- A caller that may ask for nothing more is done. -/
theorem Ends.exists_done {c : Caller α} {log : List Exchange} {t : τ}
    (h : Ends d Others Post c 0 log t) : ∃ a, c = .done a := by
  cases c with
  | done a => exact ⟨a, rfl⟩
  | asks o next => exact h.elim

/-- What others do before a caller goes on is within what it allows for. -/
theorem Ends.stable {c : Caller α} {n : Nat} {log : List Exchange} {t t' : τ}
    (h : Ends d Others Post c n log t) (ht : Others t t')
    (htrans : ∀ x y z, Others x y → Others y z → Others x z)
    (hpost : ∀ a log x y, Post a log x → Others x y → Post a log y) :
    Ends d Others Post c n log t' := by
  cases c with
  | done a => exact hpost a log t t' h ht
  | asks o next =>
    cases n with
    | zero => exact h
    | succ n =>
      intro t'' ht''
      exact h t'' (htrans t t' t'' ht ht'')

end Among

end Caller

/-! ## Scenes -/

/-- Callers that share a driver, with what each has exchanged. -/
structure Scene (ι τ α : Type) where
  callers : ι → Caller α
  exchanges : ι → List Exchange
  server : τ

/-- Who comes next. -/
inductive Turn (ι : Type) where
  | caller (i : ι)
  /-- Someone who is no caller of the scene performs an operation. -/
  | outsider (o : Operation)

namespace Scene

variable {ι τ α : Type} [DecidableEq ι] (d : Driver (StateM τ))

/-- A caller that is done does nothing in its turns. -/
def turn (sc : Scene ι τ α) : Turn ι → Scene ι τ α
  | .outsider o => { sc with server := (o.perform d sc.server).2 }
  | .caller i =>
    match sc.callers i with
    | .done _ => sc
    | .asks o next =>
      let answered := o.perform d sc.server
      { callers := Function.update sc.callers i (next answered.1)
        exchanges := Function.update sc.exchanges i (sc.exchanges i ++ [⟨o, answered.1⟩])
        server := answered.2 }

def run (sc : Scene ι τ α) (turns : List (Turn ι)) : Scene ι τ α :=
  turns.foldl (turn d) sc

/-- How many turns a caller has. -/
def turnsOf (i : ι) (turns : List (Turn ι)) : Nat :=
  turns.countP fun
    | .caller j => j == i
    | .outsider _ => false

theorem turnsOf_cons (i : ι) (x : Turn ι) (turns : List (Turn ι)) :
    turnsOf i (x :: turns) = turnsOf i [x] + turnsOf i turns := by
  simp [turnsOf, List.countP_cons, Nat.add_comm]

section Endings

/-- What the callers of a scene do to each other is what they allow for, and it leaves the
postcondition of those that are done as it is. -/
structure Allows (d : Driver (StateM τ)) (Others : τ → τ → Prop)
    (Post : α → List Exchange → τ → Prop) : Prop where
  refl : ∀ t, Others t t
  trans : ∀ x y z, Others x y → Others y z → Others x z
  perform : ∀ (o : Operation) t, Others t (o.perform d t).2
  post : ∀ a log x y, Post a log x → Others x y → Post a log y

variable {d} {Others : τ → τ → Prop} {Post : α → List Exchange → τ → Prop}

/-- A turn of one caller is a step on its way or, for the other callers, an act of others. -/
theorem Allows.turn (w : Allows d Others Post) {sc : Scene ι τ α} {i : ι} {n : Nat}
    (h : (sc.callers i).Ends d Others Post n (sc.exchanges i) sc.server) (x : Turn ι) :
    ((sc.turn d x).callers i).Ends d Others Post (n - turnsOf i [x]) ((sc.turn d x).exchanges i)
      (sc.turn d x).server := by
  cases x with
  | outsider o => exact h.stable (w.perform o sc.server) w.trans w.post
  | caller j =>
    have hother : j ≠ i → turnsOf i [Turn.caller j] = 0 := by
      intro hne
      simp [turnsOf, hne]
    simp only [Scene.turn]
    cases hj : sc.callers j with
    | done a =>
      by_cases hji : j = i
      · subst hji
        rw [hj] at h
        simp only [hj]
        exact h
      · rw [hother hji]
        exact h
    | asks o next =>
      by_cases hji : j = i
      · subst hji
        rw [hj] at h
        simp only [Function.update_self]
        cases n with
        | zero => exact h.elim
        | succ n => simpa [turnsOf] using h sc.server (w.refl sc.server)
      · rw [hother hji]
        simp only [Function.update_of_ne (Ne.symm hji)]
        exact h.stable (w.perform o sc.server) w.trans w.post

theorem Allows.run (w : Allows d Others Post) {sc : Scene ι τ α} {i : ι} {n : Nat}
    (h : (sc.callers i).Ends d Others Post n (sc.exchanges i) sc.server)
    (turns : List (Turn ι)) :
    ((sc.run d turns).callers i).Ends d Others Post (n - turnsOf i turns)
      ((sc.run d turns).exchanges i) (sc.run d turns).server := by
  induction turns generalizing sc n with
  | nil => exact h
  | cons x turns ih =>
    rw [turnsOf_cons, ← Nat.sub_sub]
    exact ih (w.turn h x)

end Endings

end Scene
end Driver
end Ingest
