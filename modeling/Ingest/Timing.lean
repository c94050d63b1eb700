/-!
# Calls that take time

A server answers a call after a delay. Whoever calls waits up to a limit; an answer that arrives
exactly at the limit still counts. A call that is given up has taken place all the same. Times are
in milliseconds.
-/

namespace Ingest

/-- The answer of a server and the time it takes. -/
structure Reply (ε α : Type) where
  answer : Except ε α
  delay : Nat := 0

abbrev Call (σ ε α : Type) := σ → Reply ε α × σ

/-- The state of a server and the time. -/
structure Clocked (σ : Type) where
  server : σ
  now : Nat

namespace Clocked

variable {σ ε α : Type}

/-- Waits for the answer of a call up to a limit; `none` means that it did not arrive in time. -/
def await (limit : Nat) (call : Call σ ε α) (c : Clocked σ) :
    Option (Except ε α) × Clocked σ :=
  let answered := call c.server
  if answered.1.delay ≤ limit then
    (some answered.1.answer, ⟨answered.2, c.now + answered.1.delay⟩)
  else (none, ⟨answered.2, c.now + limit⟩)

def sleep (ms : Nat) (c : Clocked σ) : Clocked σ :=
  { c with now := c.now + ms }

/-- Lets time pass until a time, which may lie in the past. -/
def waitUntil (time : Nat) (c : Clocked σ) : Clocked σ :=
  { c with now := max c.now time }

/-- A call takes place, whether or not its answer arrives in time. -/
theorem server_await (limit : Nat) (call : Call σ ε α) (c : Clocked σ) :
    (await limit call c).2.server = (call c.server).2 := by
  unfold await
  by_cases h : (call c.server).1.delay ≤ limit <;> simp [h]

theorem await_of_le {limit : Nat} {call : Call σ ε α} {c : Clocked σ}
    (h : (call c.server).1.delay ≤ limit) :
    await limit call c = (some (call c.server).1.answer,
      ⟨(call c.server).2, c.now + (call c.server).1.delay⟩) :=
  if_pos h

/-- An answer that arrives is the one that the server gave. -/
theorem await_eq_some {limit : Nat} {call : Call σ ε α} {c c' : Clocked σ}
    {answer : Except ε α} (h : await limit call c = (some answer, c')) :
    (call c.server).1.answer = answer ∧ (call c.server).2 = c'.server := by
  have hserver : (await limit call c).2.server = (call c.server).2 := server_await limit call c
  rw [h] at hserver
  refine ⟨?_, hserver.symm⟩
  by_cases hdelay : (call c.server).1.delay ≤ limit
  · rw [await_of_le hdelay] at h
    exact Option.some.inj (Prod.mk.inj h).1
  · have hlate : await limit call c = (none, ⟨(call c.server).2, c.now + limit⟩) := if_neg hdelay
    rw [hlate] at h
    cases h

theorem now_le_await (limit : Nat) (call : Call σ ε α) (c : Clocked σ) :
    c.now ≤ (await limit call c).2.now ∧ (await limit call c).2.now ≤ c.now + limit := by
  unfold await
  by_cases h : (call c.server).1.delay ≤ limit <;> simp [h]

end Clocked
end Ingest
