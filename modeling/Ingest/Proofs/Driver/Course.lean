import Ingest.Proofs.Driver.Caller

/-!
# A reconciliation among others

A reconciliation looks, creates, looks again and adds column by column, and others may overtake it
at each of these points. `Course` collects what each point needs and leaves. From that every
reconciliation comes to an end within a bounded number of operations, and its result tells what its
own operations did (`Reports`).
-/

namespace Ingest
namespace Driver

/-! ## What operations did -/

namespace Exchange

def isLook : Exchange → Bool
  | ⟨.missingColumns _ _, _⟩ => true
  | _ => false

def isCreation : Exchange → Bool
  | ⟨.createTable _ _, _⟩ => true
  | _ => false

/-- A column was to be added, whether or not it was. -/
def isAddition : Exchange → Bool
  | ⟨.addColumn _ _, _⟩ => true
  | _ => false

/-- The table was created. -/
def creates (table : String) : Exchange → Bool
  | ⟨.createTable t _, .ok _⟩ => t == table
  | _ => false

/-- A column was added to the table. -/
def adds (table : String) : Exchange → Bool
  | ⟨.addColumn t _, .ok _⟩ => t == table
  | _ => false

end Exchange

/-- A result tells what the exchanges of the call did to the table. -/
structure Reports (table : String) (log : List Exchange) (result : Reconciled) : Prop where
  looks : log.countP Exchange.isLook ≤ 2
  creations : log.countP Exchange.isCreation ≤ 1
  created : result = .created ↔ ∃ x ∈ log, x.creates table
  columnsAdded : ∀ n, result = .columnsAdded n ↔ 1 ≤ n ∧ log.countP (Exchange.adds table) = n

/-- No column was added yet and the table was not created. -/
structure Preparing (table : String) (log : List Exchange) : Prop where
  looks : log.countP Exchange.isLook ≤ 2
  creations : log.countP Exchange.isCreation ≤ 1
  notCreated : ∀ x ∈ log, x.creates table = false
  notAdded : log.countP (Exchange.adds table) = 0

namespace Exchange

variable {x : Exchange}

theorem not_isLook_of_isAddition (h : x.isAddition) : x.isLook = false := by
  rcases x with ⟨_ | _ | _ | _, _⟩ <;> first | rfl | cases h

theorem not_isCreation_of_isAddition (h : x.isAddition) : x.isCreation = false := by
  rcases x with ⟨_ | _ | _ | _, _⟩ <;> first | rfl | cases h

theorem not_creates_of_isAddition (h : x.isAddition) (table : String) :
    x.creates table = false := by
  rcases x with ⟨_ | _ | _ | _, _⟩ <;> first | rfl | cases h

end Exchange

theorem Preparing.reports {table : String} {log additions : List Exchange} {result : Reconciled}
    (p : Preparing table log) (hadditions : ∀ x ∈ additions, x.isAddition)
    (hresult : result = if additions.countP (Exchange.adds table) = 0 then .unchanged
      else .columnsAdded (additions.countP (Exchange.adds table))) :
    Reports table (log ++ additions) result := by
  have hlooks : additions.countP Exchange.isLook = 0 := by
    rw [List.countP_eq_zero]
    intro x hx
    simp [Exchange.not_isLook_of_isAddition (hadditions x hx)]
  have hcreations : additions.countP Exchange.isCreation = 0 := by
    rw [List.countP_eq_zero]
    intro x hx
    simp [Exchange.not_isCreation_of_isAddition (hadditions x hx)]
  refine ⟨?_, ?_, ?_, ?_⟩
  · rw [List.countP_append, hlooks]
    exact p.looks
  · rw [List.countP_append, hcreations]
    exact p.creations
  · constructor
    · intro hcreated
      rw [hresult] at hcreated
      split at hcreated <;> cases hcreated
    · rintro ⟨x, hx, hcreates⟩
      rcases List.mem_append.1 hx with hx | hx
      · rw [p.notCreated x hx] at hcreates
        cases hcreates
      · rw [Exchange.not_creates_of_isAddition (hadditions x hx)] at hcreates
        cases hcreates
  · intro n
    rw [List.countP_append, p.notAdded, Nat.zero_add, hresult]
    split
    · rename_i hnone
      simp only [reduceCtorEq, false_iff, not_and]
      omega
    · rename_i hsome
      simp only [Reconciled.columnsAdded.injEq]
      omega

theorem preparing_look (table : String) (s : Schema) (found : Outcome (List Field)) :
    Preparing table [⟨.missingColumns table s, found⟩] where
  looks := by simp [List.countP_cons, Exchange.isLook]
  creations := by simp [Exchange.isCreation]
  notCreated := by simp [Exchange.creates]
  notAdded := by simp [Exchange.adds]

/-- Others were faster to create the table. -/
theorem preparing_lookAgain (table : String) (s : Schema) (found again : Outcome (List Field))
    (e : Failure) :
    Preparing table [⟨.missingColumns table s, found⟩, ⟨.createTable table s, .error e⟩,
      ⟨.missingColumns table s, again⟩] where
  looks := by simp [List.countP_cons, Exchange.isLook]
  creations := by simp [List.countP_cons, Exchange.isCreation]
  notCreated := by simp [Exchange.creates]
  notAdded := by simp [Exchange.adds]

theorem reports_created (table : String) (s : Schema) (found : Outcome (List Field)) :
    Reports table [⟨.missingColumns table s, found⟩, ⟨.createTable table s, .ok ()⟩]
      .created where
  looks := by simp [List.countP_cons, Exchange.isLook]
  creations := by simp [List.countP_cons, Exchange.isCreation]
  created := by simp [Exchange.creates]
  columnsAdded n := by
    simp only [reduceCtorEq, false_iff, not_and]
    intro hn hcount
    have hzero : List.countP (Exchange.adds table) [⟨.missingColumns table s, found⟩,
        ⟨.createTable table s, .ok ()⟩] = 0 := by simp [Exchange.adds]
    omega

/-! ## The points of a course -/

/-- A field that is not missing any more leaves the others as missing as they were. -/
theorem covered_of_cons {present : Field → Prop} {s : Schema} {f : Field} {rest : List Field}
    (h : ∀ g ∈ s.fields, g ∈ f :: rest ∨ present g) (hf : present f) :
    ∀ g ∈ s.fields, g ∈ rest ∨ present g := by
  intro g hg
  rcases h g hg with hmissing | hpresent
  · rcases List.mem_cons.1 hmissing with rfl | hmissing
    · exact .inr hf
    · exact .inl hmissing
  · exact .inr hpresent

variable {τ : Type}

/-- What holds before a reconciliation, once the table exists and while columns are still to be
added, whatever others do, with what each operation has to leave. An addition may fail, and then
something else holds. -/
structure Course (d : Driver (StateM τ)) (Others : τ → τ → Prop) (table : String) (s : Schema)
    (Before Existing : τ → Prop) (Lacking : List Field → τ → Prop)
    (Failed : Failure → τ → Prop) : Prop where
  overtakenBefore : ∀ {t t'}, Before t → Others t t' → Before t'
  overtakenExisting : ∀ {t t'}, Existing t → Others t t' → Existing t'
  overtakenLacking : ∀ {missing t t'}, Lacking missing t → Others t t' → Lacking missing t'
  look : ∀ {t}, Before t →
    (∃ name t', (d.missingColumns table s).run t = (.error (.tableNotFound name), t') ∧
      Before t') ∨
    ∃ missing t', (d.missingColumns table s).run t = (.ok missing, t') ∧
      missing.length ≤ s.fields.length ∧ Lacking missing t'
  create : ∀ {t}, Before t →
    (∃ t', (d.createTable table s).run t = (.ok (), t') ∧ Lacking [] t') ∨
    ∃ name t', (d.createTable table s).run t = (.error (.tableAlreadyExists name), t') ∧
      Existing t'
  lookAgain : ∀ {t}, Existing t →
    ∃ missing t', (d.missingColumns table s).run t = (.ok missing, t') ∧
      missing.length ≤ s.fields.length ∧ Lacking missing t'
  add : ∀ {f rest t}, Lacking (f :: rest) t →
    (∃ t', (d.addColumn table f).run t = (.ok (), t') ∧ Lacking rest t') ∨
    (∃ name column t',
      (d.addColumn table f).run t = (.error (.columnAlreadyExists name column), t') ∧
        Lacking rest t') ∨
    ∃ e t', (d.addColumn table f).run t = (.error e, t') ∧
      (∀ name column, e ≠ .columnAlreadyExists name column) ∧ Failed e t'

/-- How a computation that adds columns ends: it has asked for nothing but additions, and either no
field is lacking or one of them has failed. -/
def Extending {α : Type} (log : List Exchange) (Lacking : τ → Prop) (Failed : Failure → τ → Prop)
    (Good : α → List Exchange → Prop) (answer : Outcome α) (log' : List Exchange) (t : τ) : Prop :=
  ∃ additions, log' = log ++ additions ∧ (∀ x ∈ additions, x.isAddition) ∧
    match answer with
    | .ok a => Good a additions ∧ Lacking t
    | .error e => Failed e t

/-- How a reconciliation ends. -/
def Finished (table : String) (Complete : τ → Prop) (Failed : Failure → τ → Prop)
    (answer : Outcome (Option Reconciled)) (log : List Exchange) (t : τ) : Prop :=
  match answer with
  | .ok result => (∃ r, result = some r ∧ Reports table log r) ∧ Complete t
  | .error e => Failed e t

namespace Course

open Caller

variable {d : Driver (StateM τ)} {Others : τ → τ → Prop} {table : String} {s : Schema}
  {Before Existing : τ → Prop} {Lacking : List Field → τ → Prop} {Failed : Failure → τ → Prop}

/-! ## Adding -/

theorem addMissing (c : Course d Others table s Before Existing Lacking Failed) {f : Field}
    {rest : List Field} (log : List Exchange) {t : τ} (h : Lacking (f :: rest) t) :
    Ends d Others (Extending log (Lacking rest) Failed fun n additions =>
        additions.countP (Exchange.adds table) = n)
      (asking.addMissing (fun _ => done ()) table f).run 1 log t := by
  intro t' ht'
  rcases c.add (c.overtakenLacking h ht') with
    ⟨t'', hrun, hl⟩ | ⟨name, column, t'', hrun, hl⟩ | ⟨e, t'', hrun, hne, hfailed⟩
  · have hperform : (Operation.addColumn table f).perform d t' = (.ok (), t'') := hrun
    rw [hperform]
    exact ⟨_, rfl, by simp [Exchange.isAddition], by simp [Exchange.adds], hl⟩
  · have hperform : (Operation.addColumn table f).perform d t' =
        (.error (.columnAlreadyExists name column), t'') := hrun
    rw [hperform]
    exact ⟨_, rfl, by simp [Exchange.isAddition], by simp [Exchange.adds], hl⟩
  · have hperform : (Operation.addColumn table f).perform d t' = (.error e, t'') := hrun
    rw [hperform]
    cases e with
    | columnAlreadyExists name column => exact absurd rfl (hne name column)
    | _ => exact ⟨_, rfl, by simp [Exchange.isAddition], hfailed⟩

theorem addAll (c : Course d Others table s Before Existing Lacking Failed)
    {missing : List Field} (log : List Exchange) {t : τ} (h : Lacking missing t) :
    Ends d Others (Extending log (Lacking []) Failed fun n additions =>
        additions.countP (Exchange.adds table) = n)
      (asking.addAllMissing (fun _ => done ()) table missing).run missing.length log t := by
  -- By induction on the missing fields: each addition takes one of them off.
  induction missing generalizing log t with
  | nil => exact ⟨[], by simp, by simp, rfl, h⟩
  | cons f rest ih =>
    rw [List.length_cons, Nat.add_comm]
    refine (c.addMissing log h).bindExcept ?_ ?_
    · rintro here _ t ⟨additions, rfl, hadditions, hhere, hl⟩
      refine (ih (log ++ additions) hl).bindExcept (m := 0) ?_ ?_
      · rintro there _ t ⟨more, rfl, hmore, hthere, hl⟩
        refine ⟨additions ++ more, by simp, ?_, ?_, hl⟩
        · intro x hx
          exact (List.mem_append.1 hx).elim (hadditions x) (hmore x)
        · exact List.countP_append.trans (by rw [hhere, hthere])
      · rintro e _ t ⟨more, rfl, hmore, hfailed⟩
        refine ⟨additions ++ more, by simp, ?_, hfailed⟩
        intro x hx
        exact (List.mem_append.1 hx).elim (hadditions x) (hmore x)
    · rintro e _ t ⟨additions, rfl, hadditions, hfailed⟩
      exact ⟨additions, rfl, hadditions, hfailed⟩

/-- How many columns were added decides about the result. -/
theorem extend (c : Course d Others table s Before Existing Lacking Failed)
    {missing : List Field} (log : List Exchange) {t : τ} (h : Lacking missing t) :
    Ends d Others (Extending log (Lacking []) Failed fun result additions =>
        result = if additions.countP (Exchange.adds table) = 0 then .unchanged
          else .columnsAdded (additions.countP (Exchange.adds table)))
      (asking.extend (fun _ => done ()) table missing).run missing.length log t := by
  refine (c.addAll log h).bindExcept (m := 0) ?_ ?_
  · rintro n _ t ⟨additions, rfl, hadditions, rfl, hl⟩
    by_cases hn : additions.countP (Exchange.adds table) = 0
    · simp only [if_pos hn]
      exact ⟨additions, rfl, hadditions, by simp [hn], hl⟩
    · simp only [if_neg hn]
      exact ⟨additions, rfl, hadditions, by simp [hn], hl⟩
  · rintro e _ t ⟨additions, rfl, hadditions, hfailed⟩
    exact ⟨additions, rfl, hadditions, hfailed⟩

/-- Once it is known what is missing, only additions follow. -/
theorem finish (c : Course d Others table s Before Existing Lacking Failed)
    {missing : List Field} {log : List Exchange} {t : τ} (h : Lacking missing t)
    (hlength : missing.length ≤ s.fields.length) (hlog : Preparing table log) :
    Ends d Others (Finished table (Lacking []) Failed)
      (asking.extend (fun _ => done ()) table missing >>= fun result =>
        pure (some result)).run s.fields.length log t := by
  have hextend : Ends d Others (Finished table (Lacking []) Failed)
      (asking.extend (fun _ => done ()) table missing >>= fun result =>
        pure (some result)).run (missing.length + 0) log t := by
    refine (c.extend log h).bindExcept ?_ ?_
    · rintro result _ t ⟨additions, rfl, hadditions, hresult, hl⟩
      exact ⟨⟨result, rfl, hlog.reports hadditions hresult⟩, hl⟩
    · rintro e _ t ⟨additions, rfl, hadditions, hfailed⟩
      exact hfailed
  exact hextend.mono hlength fun _ _ _ => id

/-! ## The whole course -/

/-- Whatever others do, a reconciliation ends after at most three operations and one for each
field. -/
theorem ends (c : Course d Others table s Before Existing Lacking Failed) {t : τ}
    (h : Before t) (rounds : Nat) :
    Ends d Others (Finished table (Lacking []) Failed) (reconciling table s (rounds + 2))
      (s.fields.length + 3) [] t := by
  intro t₁ ht₁
  rcases c.look (c.overtakenBefore h ht₁) with
    ⟨name, t₂, hrun, hbefore⟩ | ⟨missing, t₂, hrun, hlength, hl⟩
  · have hlook : (Operation.missingColumns table s).perform d t₁ =
        (.error (.tableNotFound name), t₂) := hrun
    rw [hlook]
    intro t₃ ht₃
    rcases c.create (c.overtakenBefore hbefore ht₃) with
      ⟨t₄, hrun, hl⟩ | ⟨name', t₄, hrun, hexisting⟩
    · have hcreate : (Operation.createTable table s).perform d t₃ = (.ok (), t₄) := hrun
      rw [hcreate]
      exact ⟨⟨.created, rfl, reports_created table s _⟩, hl⟩
    -- Others have created the table, so the second look finds it.
    · have hcreate : (Operation.createTable table s).perform d t₃ =
          (.error (.tableAlreadyExists name'), t₄) := hrun
      rw [hcreate]
      intro t₅ ht₅
      rcases c.lookAgain (c.overtakenExisting hexisting ht₅) with ⟨missing, t₆, hrun, hlength, hl⟩
      have hagain : (Operation.missingColumns table s).perform d t₅ = (.ok missing, t₆) := hrun
      rw [hagain]
      exact c.finish hl hlength (preparing_lookAgain table s _ _ _)
  · have hlook : (Operation.missingColumns table s).perform d t₁ = (.ok missing, t₂) := hrun
    rw [hlook]
    exact (c.finish hl hlength (preparing_look table s _)).mono (Nat.le_add_right _ 2) fun _ _ _ => id

end Course

end Driver
end Ingest
