import Ingest.Driver.Reconcile
import Ingest.Proofs.Driver.Effects

/-!
# Runs of a reconciliation

A reconciliation that succeeds has looked up what is missing and added it column by column, or it
has created the table. `Reconciliation` collects what one call preserves, and `Reconciliation.run`
follows the rounds and the columns from it. With nothing missing, one look-up is all that happens.
-/

namespace Ingest
namespace Driver

variable {τ : Type} {d : Driver (StateM τ)} {table : String} {s : Schema}

/-- Notes nothing. -/
def quiet : Event → StateM τ Unit := fun _ => pure ()

/-! ## One column -/

/-- A column counts if it was added, and does not if others had added it. -/
theorem addMissing_eq_ok {f : Field} {n : Nat} {c c' : τ}
    (h : (d.addMissing quiet table f).run c = (.ok n, c')) :
    (n = 1 ∧ (d.addColumn table f).run c = (.ok (), c')) ∨
      (n = 0 ∧ ∃ t column, (d.addColumn table f).run c =
        (.error (.columnAlreadyExists t column), c')) := by
  rcases hadd : (d.addColumn table f).run c with ⟨answer, c₁⟩
  unfold addMissing at h
  rw [Effect.run_bind_of_ok (Effect.run_attempt _ c), hadd] at h
  cases answer with
  | ok u =>
    cases h
    exact .inl ⟨rfl, rfl⟩
  | error e =>
    cases e with
    | columnAlreadyExists t column =>
      cases h
      exact .inr ⟨rfl, t, column, rfl⟩
    | _ => cases h

/-! ## What every operation keeps -/

section Keeping

open Effect

variable {P : τ → Prop}

theorem keeps_addMissing (hadd : ∀ f, Keeps P (d.addColumn table f)) (f : Field) :
    Keeps P (d.addMissing quiet table f) := by
  have hattempt : Keeps P (attempt (d.addColumn table f)) := fun c hc => hadd f c hc
  refine hattempt.bind fun r => ?_
  cases r with
  | ok u => exact Keeps.pure 1
  | error e =>
    cases e with
    | columnAlreadyExists t column => exact fun _ hc => hc
    | _ => exact Keeps.throw _

theorem keeps_addAllMissing (hadd : ∀ f, Keeps P (d.addColumn table f)) (missing : List Field) :
    Keeps P (d.addAllMissing quiet table missing) := by
  induction missing with
  | nil => exact Keeps.pure 0
  | cons f rest ih =>
    exact (keeps_addMissing hadd f).bind fun here => ih.bind fun there => Keeps.pure (here + there)

/-- What every operation keeps is kept while a table is reconciled, however that ends. -/
theorem keeps_reconcile (hlook : Keeps P (d.missingColumns table s))
    (hcreate : Keeps P (d.createTable table s)) (hadd : ∀ f, Keeps P (d.addColumn table f))
    (rounds : Nat) : Keeps P (d.reconcile quiet table s rounds) := by
  have hlook : Keeps P (attempt (d.missingColumns table s)) := fun c hc => hlook c hc
  have hcreate : Keeps P (attempt (d.createTable table s)) := fun c hc => hcreate c hc
  induction rounds with
  | zero => exact Keeps.pure none
  | succ rounds ih =>
    refine hlook.bind fun r => ?_
    cases r with
    | ok missing =>
      have hextend : Keeps P (d.extend quiet table missing) := by
        refine (keeps_addAllMissing hadd missing).bind fun added => ?_
        split
        · exact Keeps.pure Reconciled.unchanged
        · exact fun _ hc => hc
      exact hextend.bind fun done => Keeps.pure (some done)
    | error e =>
      cases e with
      | tableNotFound t =>
        refine hcreate.bind fun r => ?_
        cases r with
        | ok u => exact Keeps.pure (some Reconciled.created)
        | error e =>
          cases e with
          | tableAlreadyExists t => exact ih
          | _ => exact Keeps.throw _
      | _ => exact Keeps.throw _

end Keeping

/-! ## A whole run -/

/-- What holds before a reconciliation, while columns are still to be added, and in the end, with
what each call has to preserve. -/
structure Reconciliation (d : Driver (StateM τ)) (table : String) (s : Schema)
    (Before : τ → Prop) (Lacking : List Field → τ → Prop) (After : τ → Prop) : Prop where
  found : ∀ {c missing c'}, Before c →
    (d.missingColumns table s).run c = (.ok missing, c') → Lacking missing c'
  absent : ∀ {c t c'}, Before c →
    (d.missingColumns table s).run c = (.error (.tableNotFound t), c') → Before c'
  created : ∀ {c c'}, Before c → (d.createTable table s).run c = (.ok (), c') → After c'
  taken : ∀ {c t c'}, Before c →
    (d.createTable table s).run c = (.error (.tableAlreadyExists t), c') → Before c'
  added : ∀ {f rest c c'}, Lacking (f :: rest) c →
    (d.addColumn table f).run c = (.ok (), c') → Lacking rest c'
  addedByOthers : ∀ {f rest c t column c'}, Lacking (f :: rest) c →
    (d.addColumn table f).run c = (.error (.columnAlreadyExists t column), c') →
      Lacking rest c'
  complete : ∀ {c}, Lacking [] c → After c

namespace Reconciliation

variable {Before : τ → Prop} {Lacking : List Field → τ → Prop} {After : τ → Prop}

theorem addAll (r : Reconciliation d table s Before Lacking After) {missing : List Field}
    {n : Nat} {c c' : τ} (hc : Lacking missing c)
    (h : (d.addAllMissing quiet table missing).run c = (.ok n, c')) : Lacking [] c' := by
  -- By induction on the missing fields: each call takes one of them off `Lacking`.
  induction missing generalizing n c with
  | nil =>
    cases h
    exact hc
  | cons f rest ih =>
    unfold addAllMissing at h
    rcases Effect.bind_eq_ok h with ⟨here, c₁, hhere, h⟩
    rcases Effect.bind_eq_ok h with ⟨there, c₂, hthere, h⟩
    cases h
    rcases addMissing_eq_ok hhere with ⟨-, hadd⟩ | ⟨-, t, column, hadd⟩
    · exact ih (r.added hc hadd) hthere
    · exact ih (r.addedByOthers hc hadd) hthere

theorem extend (r : Reconciliation d table s Before Lacking After) {missing : List Field}
    {result : Reconciled} {c c' : τ} (hc : Lacking missing c)
    (h : (d.extend quiet table missing).run c = (.ok result, c')) : After c' := by
  unfold Driver.extend at h
  rcases Effect.bind_eq_ok h with ⟨n, c₁, hadd, h⟩
  have hc₁ : c₁ = c' := by
    by_cases hn : n = 0
    · rw [if_pos hn] at h
      cases h
      rfl
    · rw [if_neg hn] at h
      cases h
      rfl
  exact r.complete (r.addAll hc (hc₁ ▸ hadd))

/-- What a reconciliation that succeeds leaves. -/
theorem run (r : Reconciliation d table s Before Lacking After) {rounds : Nat}
    {result : Reconciled} {c c' : τ} (hc : Before c)
    (h : (d.reconcile quiet table s rounds).run c = (.ok (some result), c')) : After c' := by
  -- Another round begins only after a look-up or a creation that kept `Before`.
  induction rounds generalizing c with
  | zero => cases h
  | succ rounds ih =>
    rcases hfound : (d.missingColumns table s).run c with ⟨found, c₁⟩
    unfold reconcile at h
    rw [Effect.run_bind_of_ok (Effect.run_attempt _ c), hfound] at h
    cases found with
    | ok missing =>
      rcases Effect.bind_eq_ok h with ⟨done, c₂, hextend, h⟩
      cases h
      exact r.extend (r.found hc hfound) hextend
    | error e =>
      cases e with
      | tableNotFound t =>
        have hc₁ : Before c₁ := r.absent hc hfound
        rcases hcreate : (d.createTable table s).run c₁ with ⟨created, c₂⟩
        simp only at h
        rw [Effect.run_bind_of_ok (Effect.run_attempt _ c₁), hcreate] at h
        cases created with
        | ok u =>
          cases h
          exact r.created hc₁ hcreate
        | error e =>
          cases e with
          | tableAlreadyExists t => exact ih (r.taken hc₁ hcreate) h
          | _ => cases h
      | _ => cases h

end Reconciliation

/-! ## Nothing to do -/

/-- Where nothing is missing, a reconciliation looks once and changes nothing. -/
theorem reconcile_of_complete {c c' : τ}
    (h : (d.missingColumns table s).run c = (.ok [], c')) (rounds : Nat) :
    (d.reconcile quiet table s (rounds + 1)).run c = (.ok (some .unchanged), c') := by
  unfold reconcile
  rw [Effect.run_bind_of_ok (Effect.run_attempt _ c), h]
  rfl

end Driver
end Ingest
