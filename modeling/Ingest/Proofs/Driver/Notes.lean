import Ingest.Proofs.Driver.Reconciliation

/-!
# What operations leave in a log

A server can note what it is asked. `Notes log Post x` says of a computation what it adds to the
notes and how it ends: nothing is taken back, and `Post` holds of what was added and of the result.
`notes_reconcile` puts together what is noted while a table is reconciled from what each operation
notes.
-/

namespace Ingest
namespace Effect

variable {τ ε α β : Type}

/-- A computation only adds to the notes, and `Post` holds of what it adds and of its result. -/
def Notes (log : τ → List ε) (Post : List ε → Outcome α → Prop)
    (x : ExceptT Failure (StateM τ) α) : Prop :=
  ∀ c, ∃ xs, log (x.run c).2 = log c ++ xs ∧ Post xs (x.run c).1

namespace Notes

variable {log : τ → List ε} {Post Post' : List ε → Outcome α → Prop}
  {x : ExceptT Failure (StateM τ) α}

theorem mono (hx : Notes log Post x) (h : ∀ {xs o}, Post xs o → Post' xs o) :
    Notes log Post' x := by
  intro c
  rcases hx c with ⟨xs, hlog, hpost⟩
  exact ⟨xs, hlog, h hpost⟩

theorem pure {a : α} (h : Post [] (.ok a)) :
    Notes log Post (pure a : ExceptT Failure (StateM τ) α) :=
  fun c => ⟨[], (List.append_nil (log c)).symm, h⟩

theorem throw {e : Failure} (h : Post [] (.error e)) :
    Notes log Post (throw e : ExceptT Failure (StateM τ) α) :=
  fun c => ⟨[], (List.append_nil (log c)).symm, h⟩

theorem ofOutcome {o : Outcome α} (h : Post [] o) : Notes log Post (ofOutcome o) :=
  fun c => ⟨[], (List.append_nil (log c)).symm, h⟩

/-- What the second of two computations adds comes behind what the first one added. -/
theorem bind {First : List ε → Outcome β → Prop} {y : ExceptT Failure (StateM τ) β}
    {f : β → ExceptT Failure (StateM τ) α} (hy : Notes log First y)
    (herror : ∀ {xs e}, First xs (.error e) → Post xs (.error e))
    (hf : ∀ xs b, First xs (.ok b) → Notes log (fun ys => Post (xs ++ ys)) (f b)) :
    Notes log Post (y >>= f) := by
  intro c
  rcases hy c with ⟨xs, hxs, hfirst⟩
  rw [run_bind]
  split
  · rename_i b c₁ hrun
    rw [hrun] at hxs hfirst
    rcases hf xs b hfirst c₁ with ⟨ys, hys, hpost⟩
    exact ⟨xs ++ ys, by rw [hys, hxs, List.append_assoc], hpost⟩
  · rename_i e c₁ hrun
    rw [hrun] at hxs hfirst
    exact ⟨xs, hxs, herror hfirst⟩

/-- What follows a result without effects is noted alone. -/
theorem ofOutcome_bind {o : Outcome β} {f : β → ExceptT Failure (StateM τ) α}
    (herror : ∀ e, Post [] (.error e)) (hf : ∀ b, Notes log Post (f b)) :
    Notes log Post (Effect.ofOutcome o >>= f) := by
  cases o with
  | error e => exact Notes.throw (herror e)
  | ok b => exact hf b

/-- A computation that is attempted does not fail. -/
theorem attempt (hx : Notes log Post x) :
    Notes log (fun xs o => ∃ r, o = .ok r ∧ Post xs r) (Driver.attempt x) := by
  intro c
  rcases hx c with ⟨xs, hlog, hpost⟩
  exact ⟨xs, hlog, _, rfl, hpost⟩

end Notes

/-! ## Notes of one kind -/

/-- What a computation adds is of one kind. -/
def Only (Idle : ε → Prop) (xs : List ε) (_ : Outcome α) : Prop :=
  ∀ x ∈ xs, Idle x

namespace Only

variable {log : τ → List ε} {Idle : ε → Prop}

theorem pure (a : α) : Notes log (Only Idle) (pure a : ExceptT Failure (StateM τ) α) :=
  Notes.pure nofun

theorem throw (e : Failure) : Notes log (Only Idle) (throw e : ExceptT Failure (StateM τ) α) :=
  Notes.throw nofun

theorem ofOutcome (o : Outcome α) : Notes log (Only Idle) (ofOutcome o) :=
  Notes.ofOutcome nofun

theorem bind {y : ExceptT Failure (StateM τ) β} {f : β → ExceptT Failure (StateM τ) α}
    (hy : Notes log (Only Idle) y) (hf : ∀ b, Notes log (Only Idle) (f b)) :
    Notes log (Only Idle) (y >>= f) :=
  Notes.bind hy id fun _ b hxs => (hf b).mono fun hys => List.forall_mem_append.2 ⟨hxs, hys⟩

theorem attempt {x : ExceptT Failure (StateM τ) α} (hx : Notes log (Only Idle) x) :
    Notes log (Only Idle) (Driver.attempt x) :=
  (Notes.attempt hx).mono fun ⟨_, _, hxs⟩ => hxs

end Only

/-! ## Reconciling -/

section Reconciling

variable (Idle : ε → Prop) (Creation : List ε → Outcome Unit → Prop)

/-- What is noted while a table is reconciled: nothing of interest, and then at most one creation,
with which the run ends. -/
inductive Reconciling : List ε → Outcome (Option Reconciled) → Prop
  | idle {xs : List ε} {o : Outcome (Option Reconciled)} :
      (∀ x ∈ xs, Idle x) → o ≠ .ok (some .created) → Reconciling xs o
  | creating {xs ys : List ε} {o : Outcome Unit} :
      (∀ x ∈ xs, Idle x) → Creation ys o → Reconciling (xs ++ ys) (o.map fun _ => some .created)

variable {Idle Creation} {log : τ → List ε} {d : Driver (StateM τ)} {table : String}

theorem Reconciling.append {xs ys : List ε} {o : Outcome (Option Reconciled)}
    (hxs : ∀ x ∈ xs, Idle x) (h : Reconciling Idle Creation ys o) :
    Reconciling Idle Creation (xs ++ ys) o := by
  cases h with
  | idle hys ho => exact .idle (List.forall_mem_append.2 ⟨hxs, hys⟩) ho
  | creating hys hcreation =>
    rw [← List.append_assoc]
    exact .creating (List.forall_mem_append.2 ⟨hxs, hys⟩) hcreation

theorem only_addMissing (hadd : ∀ f, Notes log (Only Idle) (d.addColumn table f)) (f : Field) :
    Notes log (Only Idle) (d.addMissing Driver.quiet table f) := by
  refine Only.bind (Only.attempt (hadd f)) fun r => ?_
  cases r with
  | ok u => exact Only.pure 1
  | error e =>
    cases e with
    | columnAlreadyExists t column => exact Only.pure 0
    | _ => exact Only.throw _

theorem only_addAllMissing (hadd : ∀ f, Notes log (Only Idle) (d.addColumn table f))
    (missing : List Field) :
    Notes log (Only Idle) (d.addAllMissing Driver.quiet table missing) := by
  induction missing with
  | nil => exact Only.pure 0
  | cons f rest ih =>
    refine Only.bind (only_addMissing hadd f) fun here => Only.bind ih fun there => ?_
    exact Only.pure (here + there)

theorem notes_extend (hadd : ∀ f, Notes log (Only Idle) (d.addColumn table f))
    (missing : List Field) :
    Notes log (fun xs o => (∀ x ∈ xs, Idle x) ∧ o ≠ .ok .created)
      (d.extend Driver.quiet table missing) := by
  refine (only_addAllMissing hadd missing).bind (fun hxs => ⟨hxs, nofun⟩) fun xs added hxs => ?_
  by_cases hadded : added = 0
  · rw [if_pos hadded]
    refine Notes.pure ⟨?_, nofun⟩
    rwa [List.append_nil]
  · rw [if_neg hadded]
    intro c
    exact ⟨[], (List.append_nil (log c)).symm, by rwa [List.append_nil], nofun⟩

/-- While a table is reconciled, what is noted is what the operations note; a creation that finds
the table taken is followed by another round. -/
theorem notes_reconcile {s : Schema}
    (hlook : Notes log (Only Idle) (d.missingColumns table s))
    (hadd : ∀ f, Notes log (Only Idle) (d.addColumn table f))
    (hcreate : Notes log Creation (d.createTable table s))
    (htaken : ∀ xs t, Creation xs (.error (.tableAlreadyExists t)) → ∀ x ∈ xs, Idle x)
    (rounds : Nat) :
    Notes log (Reconciling Idle Creation) (d.reconcile Driver.quiet table s rounds) := by
  induction rounds with
  | zero => exact Notes.pure (.idle nofun nofun)
  | succ rounds ih =>
    refine hlook.attempt.bind (by rintro _ _ ⟨_, ⟨⟩, _⟩) ?_
    rintro xs r ⟨_, ⟨⟩, hxs⟩
    cases r with
    | ok missing =>
      refine (notes_extend hadd missing).bind ?_ ?_
      · rintro ys e ⟨hys, -⟩
        exact .append hxs (.idle hys nofun)
      · rintro ys done ⟨hys, hdone⟩
        refine Notes.pure (.append hxs ?_)
        rw [List.append_nil]
        exact .idle hys fun h => hdone (by cases h; rfl)
    | error e =>
      cases e with
      | tableNotFound t =>
        refine hcreate.attempt.bind (by rintro _ _ ⟨_, ⟨⟩, _⟩) ?_
        rintro ys r ⟨_, ⟨⟩, hcreation⟩
        -- Unless the table was taken, the run ends as the creation does.
        cases r with
        | ok u =>
          refine Notes.pure ?_
          rw [List.append_nil]
          exact .creating hxs hcreation
        | error e =>
          cases e with
          | tableAlreadyExists t =>
            have hys := htaken ys t hcreation
            exact ih.mono fun h => .append hxs (.append hys h)
          | _ =>
            refine Notes.throw ?_
            rw [List.append_nil]
            exact .creating hxs hcreation
      | _ =>
        refine Notes.throw ?_
        rw [List.append_nil]
        exact .idle hxs nofun

end Reconciling

end Effect
end Ingest
