import Ingest.Driver.Basic

/-!
# Effects of a driver

What a driver does changes a state and may fail. The rules here follow such effects step by step:
what a sequence gives, what each step keeps (`Keeps`), and what a call with a limit does to the
state with its server (`run_timed`). They say nothing about what a server answers.
-/

namespace Ingest
namespace Effect

variable {τ α β : Type}

/-! ## Effects that may fail -/

theorem run_bind (x : ExceptT Failure (StateM τ) α) (f : α → ExceptT Failure (StateM τ) β)
    (c : τ) :
    (x >>= f).run c =
      match x.run c with
      | (.ok a, c') => (f a).run c'
      | (.error e, c') => (.error e, c') := by
  show (ExceptT.bindCont f (x.run c).1).run (x.run c).2 = _
  rcases x.run c with ⟨a | a, c'⟩ <;> rfl

theorem bind_eq_ok {x : ExceptT Failure (StateM τ) α} {f : α → ExceptT Failure (StateM τ) β}
    {b : β} {c c'' : τ} (h : (x >>= f).run c = (.ok b, c'')) :
    ∃ a c', x.run c = (.ok a, c') ∧ (f a).run c' = (.ok b, c'') := by
  rw [run_bind] at h
  split at h
  · exact ⟨_, _, ‹_›, h⟩
  · cases h

theorem bind_eq_error {x : ExceptT Failure (StateM τ) α} {f : α → ExceptT Failure (StateM τ) β}
    {e : Failure} {c c'' : τ} (h : (x >>= f).run c = (.error e, c'')) :
    x.run c = (.error e, c'') ∨ ∃ a c', x.run c = (.ok a, c') ∧ (f a).run c' = (.error e, c'') := by
  rw [run_bind] at h
  split at h
  · exact .inr ⟨_, _, ‹_›, h⟩
  · rename_i e' c' hx
    cases h
    exact .inl hx

theorem run_bind_of_ok {x : ExceptT Failure (StateM τ) α}
    {f : α → ExceptT Failure (StateM τ) β} {a : α} {c c' : τ} (h : x.run c = (.ok a, c')) :
    (x >>= f).run c = (f a).run c' := by
  rw [run_bind, h]

/-- A result without effects is passed on, and the state stays as it is. -/
theorem bind_eq_ok_of_run {x : ExceptT Failure (StateM τ) α} {o : Outcome α}
    (hx : ∀ c, x.run c = (o, c)) {f : α → ExceptT Failure (StateM τ) β} {b : β} {c c' : τ}
    (h : (x >>= f).run c = (.ok b, c')) : ∃ a, o = .ok a ∧ (f a).run c = (.ok b, c') := by
  rcases bind_eq_ok h with ⟨a, c₁, ha, h⟩
  rw [hx] at ha
  cases ha
  exact ⟨a, rfl, h⟩

theorem bind_eq_error_of_run {x : ExceptT Failure (StateM τ) α} {o : Outcome α}
    (hx : ∀ c, x.run c = (o, c)) {f : α → ExceptT Failure (StateM τ) β} {e : Failure} {c c' : τ}
    (h : (x >>= f).run c = (.error e, c')) :
    (o = .error e ∧ c' = c) ∨ ∃ a, o = .ok a ∧ (f a).run c = (.error e, c') := by
  rcases bind_eq_error h with he | ⟨a, c₁, ha, h⟩
  · rw [hx] at he
    cases he
    exact .inl ⟨rfl, rfl⟩
  · rw [hx] at ha
    cases ha
    exact .inr ⟨a, rfl, h⟩

theorem run_attempt (x : ExceptT Failure (StateM τ) α) (c : τ) :
    (Driver.attempt x).run c = (.ok (x.run c).1, (x.run c).2) := rfl

/-- What holds before a computation holds after it, however it ends. -/
def Keeps (P : τ → Prop) (x : ExceptT Failure (StateM τ) α) : Prop :=
  ∀ c, P c → P (x.run c).2

namespace Keeps

variable {P : τ → Prop}

theorem pure (a : α) : Keeps P (pure a : ExceptT Failure (StateM τ) α) :=
  fun _ hc => hc

theorem throw (e : Failure) : Keeps P (throw e : ExceptT Failure (StateM τ) α) :=
  fun _ hc => hc

theorem bind {x : ExceptT Failure (StateM τ) α} {f : α → ExceptT Failure (StateM τ) β}
    (hx : Keeps P x) (hf : ∀ a, Keeps P (f a)) : Keeps P (x >>= f) := by
  intro c hc
  have hx := hx c hc
  rw [run_bind]
  split
  · rename_i a c' h
    rw [h] at hx
    exact hf a c' hx
  · rename_i e c' h
    rw [h] at hx
    exact hx

theorem of_run {x : ExceptT Failure (StateM τ) α} {answer : Outcome α} {c c' : τ}
    (hx : Keeps P x) (hc : P c) (h : x.run c = (answer, c')) : P c' := by
  have hafter := hx c hc
  rw [h] at hafter
  exact hafter

end Keeps

/-! ## Calls -/

theorem run_ofOutcome (o : Outcome α) (c : τ) :
    (ofOutcome o : ExceptT Failure (StateM τ) α).run c = (o, c) := rfl

theorem ofOutcome_ok_bind (a : α) (f : α → ExceptT Failure (StateM τ) β) :
    ofOutcome (.ok a) >>= f = f a := rfl

theorem keeps_ofOutcome (P : τ → Prop) (o : Outcome α) : Keeps P (ofOutcome o) :=
  fun _ hc => hc

section Calls

variable {σ ε : Type} {clocked : τ → Clocked σ} {advance : Clocked σ → τ → τ}
  [HasServer τ σ clocked advance] {limit : Nat} {late : Failure} {call : Call σ ε α}

theorem run_timed (limit : Nat) (late : Failure) (call : Call σ ε α) (c : τ) :
    (timed limit late call).run c =
      match Clocked.await limit call (clocked c) with
      | (some answer, c') => (.ok answer, advance c' c)
      | (none, c') => (.error late, advance c' c) := by
  simp only [timed, ExceptT.run, ExceptT.mk]
  rcases Clocked.await limit call (clocked c) with ⟨answer | answer, c'⟩ <;> rfl

/-- A call changes the server and the time, whether or not it is answered in time. -/
theorem state_timed (limit : Nat) (late : Failure) (call : Call σ ε α) (c : τ) :
    ((timed limit late call).run c).2 =
      advance (Clocked.await limit call (clocked c)).2 c := by
  rw [run_timed]
  rcases Clocked.await limit call (clocked c) with ⟨answer | answer, c'⟩ <;> rfl

theorem server_timed (limit : Nat) (late : Failure) (call : Call σ ε α) (c : τ) :
    (clocked ((timed limit late call).run c).2).server = (call (clocked c).server).2 := by
  have hback : ∀ c', clocked (advance c' c) = c' := fun c' => HasServer.clocked_advance c' c
  rw [state_timed, hback, Clocked.server_await]

theorem keeps_timed {P : σ → Prop} (h : ∀ s, P s → P (call s).2) :
    Keeps (fun c : τ => P (clocked c).server) (timed limit late call) := by
  intro c hc
  rw [server_timed]
  exact h (clocked c).server hc

theorem run_timed_of_le {c : τ} (h : (call (clocked c).server).1.delay ≤ limit) :
    (timed limit late call).run c = (.ok (call (clocked c).server).1.answer,
      advance ⟨(call (clocked c).server).2,
        (clocked c).now + (call (clocked c).server).1.delay⟩ c) := by
  rw [run_timed, Clocked.await_of_le h]

theorem run_timed_of_lt {c : τ} (h : limit < (call (clocked c).server).1.delay) :
    (timed limit late call).run c =
      (.error late, advance ⟨(call (clocked c).server).2, (clocked c).now + limit⟩ c) := by
  rw [run_timed, Clocked.await, if_neg (Nat.not_le.2 h)]

/-- An answer that arrives is the one that the server gave. -/
theorem timed_eq_ok {answer : Except ε α} {c c' : τ}
    (h : (timed limit late call).run c = (.ok answer, c')) :
    (call (clocked c).server).1.answer = answer ∧
      (call (clocked c).server).2 = (clocked c').server := by
  rw [run_timed] at h
  split at h
  · rename_i hawait
    cases h
    have hback : ∀ c', clocked (advance c' c) = c' := fun c' => HasServer.clocked_advance c' c
    rw [hback]
    exact Clocked.await_eq_some hawait
  · cases h

theorem timed_eq_error {e : Failure} {c c' : τ}
    (h : (timed limit late call).run c = (.error e, c')) : e = late := by
  rw [run_timed] at h
  split at h
  · cases h
  · cases h
    rfl

end Calls

end Effect
end Ingest
