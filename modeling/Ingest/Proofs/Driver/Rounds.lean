import Ingest.ClickHouse.Driver
import Ingest.Proofs.Driver.Course
import Ingest.Proofs.Driver.Notes
import Mathlib.Algebra.Ring.Nat

/-!
# How often a reconciliation asks

A reconciliation that finds no table and then cannot create it, since it exists by now, begins
anew. Nothing else makes it begin anew, so it asks for two operations in each such round, and in
the last one for a look and whatever follows from it. `reconcile_stops_or_overtaken` says so of
every driver. Nobody counts the rounds, though: on a server that hides the columns of a table each
of them is lost, and the reconciliation goes on for ever (`reconcile_unbounded`).
-/

namespace Ingest
namespace Driver

open Effect

variable {τ : Type}

/-! ## Operations that are noted -/

/-- An operation is performed and noted with its answer. -/
def noting (d : Driver (StateM τ)) (o : Operation) :
    StateM (τ × List Exchange) (Outcome o.Answer) :=
  fun t =>
    let answered := o.perform d t.1
    (answered.1, answered.2, t.2 ++ [⟨o, answered.1⟩])

/-- The same driver with every operation noted. -/
def transcribed (d : Driver (StateM τ)) : Driver (StateM (τ × List Exchange)) where
  createTable table schema := ExceptT.mk (noting d (.createTable table schema))
  addColumn table field := ExceptT.mk (noting d (.addColumn table field))
  missingColumns table schema := ExceptT.mk (noting d (.missingColumns table schema))
  write table schema rows := ExceptT.mk (noting d (.write table schema rows))

/-- How a reconciliation with so many rounds ends, and what it asked for. -/
def transcript (d : Driver (StateM τ)) (table : String) (s : Schema) (rounds : Nat) (t : τ) :
    Outcome (Option Reconciled) × List Exchange :=
  let ended := (d.transcribed.reconcile quiet table s rounds).run (t, [])
  (ended.1, ended.2.2)

/-- With enough rounds a reconciliation ends with this result and has asked for this. -/
def Returns (d : Driver (StateM τ)) (table : String) (s : Schema) (t : τ)
    (result : Outcome Reconciled) (exchanges : List Exchange) : Prop :=
  ∃ enough, ∀ rounds, enough ≤ rounds →
    transcript d table s rounds t = (result.map some, exchanges)

namespace Exchange

/-- A table was to be created, but others had done so. -/
def isLostCreation : Exchange → Bool
  | ⟨.createTable _ _, .error (.tableAlreadyExists _)⟩ => true
  | _ => false

/-- How many columns were reported missing. -/
def listed? : Exchange → Option Nat
  | ⟨.missingColumns _ _, .ok missing⟩ => some missing.length
  | _ => none

end Exchange

/-- How many creations were lost to others. -/
def lostCreations (xs : List Exchange) : Nat :=
  xs.countP Exchange.isLostCreation

/-- The lengths of the lists of missing columns. -/
def listedLengths (xs : List Exchange) : List Nat :=
  xs.filterMap Exchange.listed?

theorem lostCreations_look (table : String) (s : Schema) (found : Outcome (List Field))
    (xs : List Exchange) :
    lostCreations (⟨.missingColumns table s, found⟩ :: xs) = lostCreations xs :=
  List.countP_cons_of_neg Bool.false_ne_true

theorem lostCreations_lost (table : String) (s : Schema) (b : String) (xs : List Exchange) :
    lostCreations (⟨.createTable table s, .error (.tableAlreadyExists b)⟩ :: xs) =
      lostCreations xs + 1 :=
  List.countP_cons_of_pos rfl

/-! ## Rounds -/

section Rounds

variable (table : String) (s : Schema)

/-- What a reconciliation asks for in so many rounds, and how it ends. -/
inductive Rounds : Nat → List Exchange → Outcome (Option Reconciled) → Prop
  | exhausted : Rounds 0 [] (.ok none)
  /-- The table was missing, and it existed when it was to be created. -/
  | lost {n : Nat} {xs : List Exchange} {o : Outcome (Option Reconciled)} (a b : String) :
      Rounds n xs o →
      Rounds (n + 1) (⟨.missingColumns table s, .error (.tableNotFound a)⟩ ::
        ⟨.createTable table s, .error (.tableAlreadyExists b)⟩ :: xs) o
  /-- The table was missing, and its creation decided. -/
  | created {n : Nat} (a : String) (answer : Outcome Unit) :
      (∀ b, answer ≠ .error (.tableAlreadyExists b)) →
      Rounds (n + 1) [⟨.missingColumns table s, .error (.tableNotFound a)⟩,
        ⟨.createTable table s, answer⟩] (answer.map fun _ => some .created)
  | unread {n : Nat} (e : Failure) :
      Rounds (n + 1) [⟨.missingColumns table s, .error e⟩] (.error e)
  /-- The table was found, and columns were added to it. -/
  | extended {n : Nat} {missing : List Field} {additions : List Exchange}
      (o : Outcome Reconciled) :
      additions.length ≤ missing.length → (∀ x ∈ additions, x.isAddition) →
      Rounds (n + 1) (⟨.missingColumns table s, .ok missing⟩ :: additions) (o.map some)

/-- What is asked for in so many rounds that are lost: a look that does not find the table, and a
creation that does. -/
inductive Overtaken : Nat → List Exchange → Prop
  | start : Overtaken 0 []
  | again {n : Nat} {xs : List Exchange} (a b : String) : Overtaken n xs →
      Overtaken (n + 1) (⟨.missingColumns table s, .error (.tableNotFound a)⟩ ::
        ⟨.createTable table s, .error (.tableAlreadyExists b)⟩ :: xs)

variable {table s} {rounds : Nat} {xs : List Exchange} {o : Outcome (Option Reconciled)}

/-- Two operations are asked for in a round that is lost. The last one is a look, and a creation or
an addition for each column that was listed. -/
theorem Rounds.length_le (h : Rounds table s rounds xs o) :
    xs.length ≤ 2 * lostCreations xs + (listedLengths xs).sum + 2 := by
  induction h with
  | exhausted => simp
  | @lost n xs o a b _ ih =>
    have hlisted : listedLengths (⟨.missingColumns table s, .error (.tableNotFound a)⟩ ::
        ⟨.createTable table s, .error (.tableAlreadyExists b)⟩ :: xs) = listedLengths xs := rfl
    rw [lostCreations_look, lostCreations_lost, hlisted, List.length_cons, List.length_cons]
    omega
  | created a answer _ => simp
  | unread e => simp
  | @extended n missing additions o hlength _ =>
    have hlisted : missing.length ≤
        (listedLengths (⟨.missingColumns table s, .ok missing⟩ :: additions)).sum := by
      simp [listedLengths, Exchange.listed?]
    rw [List.length_cons]
    omega

/-- If the rounds are used up, each of them was lost. -/
theorem Rounds.overtaken (h : Rounds table s rounds xs o) (ho : o = .ok none) :
    Overtaken table s rounds xs := by
  induction h with
  | exhausted => exact .start
  | lost a b _ ih => exact .again a b (ih ho)
  | created a answer _ => cases answer <;> cases ho
  | unread e => cases ho
  | extended o _ _ => cases o <;> cases ho

end Rounds

/-! ## The operations of a reconciliation -/

section Operations

variable {d : Driver (StateM τ)} {table : String} {s : Schema}

theorem notes_addMissing (f : Field) :
    Notes Prod.snd (fun xs _ => xs.length = 1 ∧ ∀ x ∈ xs, x.isAddition)
      (d.transcribed.addMissing quiet table f) := by
  have hadd : Notes Prod.snd
      (fun xs (o : Outcome Unit) => xs = [(⟨.addColumn table f, o⟩ : Exchange)])
      (d.transcribed.addColumn table f) :=
    fun t => ⟨_, rfl, rfl⟩
  have hone : ∀ o : Outcome Unit, [(⟨.addColumn table f, o⟩ : Exchange)].length = 1 ∧
      ∀ x ∈ [(⟨.addColumn table f, o⟩ : Exchange)], x.isAddition :=
    fun o => ⟨rfl, List.forall_mem_singleton.2 rfl⟩
  refine hadd.attempt.bind (by rintro _ _ ⟨_, ⟨⟩, _⟩) ?_
  rintro _ o ⟨_, ⟨⟩, rfl⟩
  cases o with
  | ok u => exact Notes.pure (hone _)
  | error e =>
    cases e with
    | columnAlreadyExists t column =>
      exact fun c => ⟨[], (List.append_nil c.2).symm, hone _⟩
    | _ => exact Notes.throw (hone _)

theorem notes_addAllMissing (missing : List Field) :
    Notes Prod.snd (fun xs _ => xs.length ≤ missing.length ∧ ∀ x ∈ xs, x.isAddition)
      (d.transcribed.addAllMissing quiet table missing) := by
  -- By induction on the missing fields: each asks for at most one addition.
  induction missing with
  | nil => exact Notes.pure ⟨Nat.le_refl 0, nofun⟩
  | cons f rest ih =>
    refine (notes_addMissing f).bind ?_ ?_
    · rintro xs e ⟨hlength, hxs⟩
      exact ⟨by rw [hlength, List.length_cons]; omega, hxs⟩
    · rintro xs here ⟨hlength, hxs⟩
      have hboth : ∀ {ys : List Exchange}, ys.length ≤ rest.length → (∀ x ∈ ys, x.isAddition) →
          (xs ++ ys).length ≤ (f :: rest).length ∧ ∀ x ∈ xs ++ ys, x.isAddition := by
        intro ys hys hall
        refine ⟨?_, List.forall_mem_append.2 ⟨hxs, hall⟩⟩
        rw [List.length_append, List.length_cons, hlength]
        omega
      refine ih.bind ?_ ?_
      · rintro ys e ⟨hys, hall⟩
        exact hboth hys hall
      · rintro ys there ⟨hys, hall⟩
        refine Notes.pure ?_
        rw [List.append_nil]
        exact hboth hys hall

theorem notes_extending (missing : List Field) :
    Notes Prod.snd (fun xs _ => xs.length ≤ missing.length ∧ ∀ x ∈ xs, x.isAddition)
      (d.transcribed.extend quiet table missing) := by
  refine (notes_addAllMissing missing).bind (fun hxs => hxs) ?_
  intro xs added hxs
  by_cases hadded : added = 0
  · rw [if_pos hadded]
    refine Notes.pure ?_
    rwa [List.append_nil]
  · rw [if_neg hadded]
    exact fun c => ⟨[], (List.append_nil c.2).symm, by simpa using hxs⟩

/-- One round after the other, until one of them is not lost. -/
theorem notes_rounds (rounds : Nat) :
    Notes Prod.snd (Rounds table s rounds)
      (d.transcribed.reconcile quiet table s rounds) := by
  induction rounds with
  | zero => exact Notes.pure .exhausted
  | succ rounds ih =>
    have hlook : Notes Prod.snd
        (fun xs (o : Outcome (List Field)) => xs = [(⟨.missingColumns table s, o⟩ : Exchange)])
        (d.transcribed.missingColumns table s) :=
      fun t => ⟨_, rfl, rfl⟩
    have hcreate : Notes Prod.snd
        (fun xs (o : Outcome Unit) => xs = [(⟨.createTable table s, o⟩ : Exchange)])
        (d.transcribed.createTable table s) :=
      fun t => ⟨_, rfl, rfl⟩
    refine hlook.attempt.bind (by rintro _ _ ⟨_, ⟨⟩, _⟩) ?_
    rintro _ found ⟨_, ⟨⟩, rfl⟩
    cases found with
    | ok missing =>
      refine (notes_extending missing).bind ?_ ?_
      · rintro xs e ⟨hlength, hxs⟩
        exact .extended (.error e) hlength hxs
      · rintro xs result ⟨hlength, hxs⟩
        refine Notes.pure ?_
        rw [List.append_nil]
        exact .extended (.ok result) hlength hxs
    | error e =>
      cases e with
      | tableNotFound a =>
        refine hcreate.attempt.bind (by rintro _ _ ⟨_, ⟨⟩, _⟩) ?_
        rintro _ answer ⟨_, ⟨⟩, rfl⟩
        cases answer with
        | ok u => exact Notes.pure (.created a (.ok u) nofun)
        | error e =>
          cases e with
          | tableAlreadyExists b => exact ih.mono fun hxs => .lost a b hxs
          | _ => exact Notes.throw (.created a (.error _) nofun)
      | _ => exact Notes.throw (.unread _)

theorem rounds_transcript (rounds : Nat) (t : τ) :
    Rounds table s rounds (transcript d table s rounds t).2 (transcript d table s rounds t).1 := by
  have hnotes : Notes Prod.snd (Rounds table s rounds)
      (d.transcribed.reconcile quiet table s rounds) := notes_rounds rounds
  rcases hnotes (t, []) with ⟨xs, hlog, hxs⟩
  have hnoted : (transcript d table s rounds t).2 = xs := hlog
  rw [hnoted]
  exact hxs

/-- A reconciliation that has ended does not need more rounds. -/
theorem reconcile_of_ended {rounds : Nat} {t : τ}
    (h : ((d.reconcile quiet table s rounds).run t).1 ≠ .ok none) :
    (d.reconcile quiet table s (rounds + 1)).run t = (d.reconcile quiet table s rounds).run t := by
  induction rounds generalizing t with
  | zero => exact absurd rfl h
  | succ rounds ih =>
    rcases hfound : (d.missingColumns table s).run t with ⟨found, t₁⟩
    unfold reconcile at h ⊢
    rw [run_bind_of_ok (run_attempt _ t), hfound] at h ⊢
    rw [run_bind_of_ok (run_attempt _ t), hfound]
    cases found with
    | ok missing => rfl
    | error e =>
      cases e with
      | tableNotFound a =>
        rcases hcreate : (d.createTable table s).run t₁ with ⟨answer, t₂⟩
        simp only at h ⊢
        rw [run_bind_of_ok (run_attempt _ t₁), hcreate] at h ⊢
        rw [run_bind_of_ok (run_attempt _ t₁), hcreate]
        cases answer with
        | ok u => rfl
        | error e =>
          cases e with
          | tableAlreadyExists b => exact ih h
          | _ => rfl
      | _ => rfl

/-- If every look finds no table and every creation finds one, no rounds suffice. -/
theorem reconcile_eq_none {P : τ → Prop}
    (hlook : ∀ t, P t →
      ∃ a t', (d.missingColumns table s).run t = (.error (.tableNotFound a), t') ∧ P t')
    (hcreate : ∀ t, P t →
      ∃ b t', (d.createTable table s).run t = (.error (.tableAlreadyExists b), t') ∧ P t')
    (rounds : Nat) {t : τ} (ht : P t) :
    ((d.reconcile quiet table s rounds).run t).1 = .ok none := by
  induction rounds generalizing t with
  | zero => rfl
  | succ rounds ih =>
    rcases hlook t ht with ⟨a, t₁, hfound, ht₁⟩
    rcases hcreate t₁ ht₁ with ⟨b, t₂, htaken, ht₂⟩
    unfold reconcile
    rw [run_bind_of_ok (run_attempt _ t), hfound]
    simp only
    rw [run_bind_of_ok (run_attempt _ t₁), htaken]
    exact ih ht₂

end Operations

/-! ## Coming to an end -/

section Ending

variable {d : Driver (StateM τ)} {table : String} {s : Schema} {t : τ}

theorem transcript_of_ended {rounds more : Nat} (hmore : rounds ≤ more)
    (h : (transcript d table s rounds t).1 ≠ .ok none) :
    transcript d table s more t = transcript d table s rounds t := by
  induction hmore with
  | refl => rfl
  | @step more _ ih =>
    have hended : ((d.transcribed.reconcile quiet table s more).run (t, [])).1 ≠ .ok none := by
      rw [← ih] at h
      exact h
    have hnext : transcript d table s (more + 1) t = transcript d table s more t := by
      rw [transcript, transcript, reconcile_of_ended hended]
    exact hnext.trans ih

theorem returns_of_ended {rounds : Nat} (h : (transcript d table s rounds t).1 ≠ .ok none) :
    ∃ result, Returns d table s t result (transcript d table s rounds t).2 := by
  rcases hended : (transcript d table s rounds t).1 with e | r
  · exact ⟨.error e, rounds, fun more hmore =>
      (transcript_of_ended hmore h).trans (Prod.ext hended rfl)⟩
  · cases r with
    | none => exact absurd hended h
    | some r =>
      exact ⟨.ok r, rounds, fun more hmore =>
        (transcript_of_ended hmore h).trans (Prod.ext hended rfl)⟩

end Ending

/-- A reconciliation returns after two operations for each creation that was lost, one for each
column that was listed, and two more; or it is overtaken in every round, for ever. -/
theorem reconcile_stops_or_overtaken (d : Driver (StateM τ)) (table : String) (s : Schema)
    (t : τ) :
    (∃ result exchanges, Returns d table s t result exchanges ∧
      exchanges.length ≤ 2 * lostCreations exchanges + (listedLengths exchanges).sum + 2) ∨
    ∀ rounds, (transcript d table s rounds t).1 = .ok none ∧
      Overtaken table s rounds (transcript d table s rounds t).2 := by
  by_cases hended : ∃ rounds, (transcript d table s rounds t).1 ≠ .ok none
  · rcases hended with ⟨rounds, hended⟩
    rcases returns_of_ended hended with ⟨result, hreturns⟩
    exact .inl ⟨result, _, hreturns, (rounds_transcript rounds t).length_le⟩
  · right
    intro rounds
    have hnone : (transcript d table s rounds t).1 = .ok none := by
      by_contra hne
      exact hended ⟨rounds, hne⟩
    exact ⟨hnone, (rounds_transcript rounds t).overtaken hnone⟩

/-- A ClickHouse server with a table whose columns nobody may see: none are described, and the table
exists when it is to be created. -/
def concealing : ClickHouse.Client Unit where
  exec _ s := (⟨.error ⟨57, "Table default.t already exists."⟩, 0⟩, s)
  columns _ _ s := (⟨.ok [], 0⟩, s)
  insert _ _ _ s := (⟨.ok (), 0⟩, s)

/-- The driver of that server. -/
def concealed : Driver (StateM (ClickHouse.Session Unit)) :=
  ClickHouse.Setup.driver ⟨{ database := "default" }, fun _ => none⟩ concealing

/-- A schema with one field. -/
def single : Schema :=
  ⟨[.plain "n" (.scalar .int64) false], by decide⟩

/-- No number of operations that is computed from the number of fields and from the lengths of the
lists of missing columns is enough for every driver. -/
theorem reconcile_unbounded :
    ¬ ∃ bound : Nat → List Nat → Nat, ∀ (τ : Type) (d : Driver (StateM τ)) (table : String)
      (s : Schema) (t : τ), ∃ result exchanges, Returns d table s t result exchanges ∧
        exchanges.length ≤ bound s.fields.length (listedLengths exchanges) := by
  rintro ⟨bound, hbound⟩
  let start : ClickHouse.Session Unit := { server := (), now := 0 }
  rcases hbound _ concealed "t" single start with ⟨result, exchanges, ⟨enough, hreturns⟩, -⟩
  -- Neither operation changes anything, so each round is like the first one.
  have hnone : (transcript concealed "t" single enough start).1 = .ok none := by
    refine reconcile_eq_none
      (P := fun c : ClickHouse.Session Unit × List Exchange => c.1 = start) ?_ ?_ enough rfl
    · rintro ⟨_, xs⟩ rfl
      exact ⟨"default.t", _, rfl, rfl⟩
    · rintro ⟨_, xs⟩ rfl
      exact ⟨"default.t", _, rfl, rfl⟩
  rw [hreturns enough (Nat.le_refl enough)] at hnone
  cases result <;> cases hnone

end Driver
end Ingest
