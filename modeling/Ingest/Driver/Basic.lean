import Ingest.Schema.Basic
import Ingest.Timing
import Ingest.Value.Basic

/-!
# Drivers

What every warehouse offers to its callers: tables are created, extended, compared with a schema
and written to. The effects of a driver are those of a monad, in which it may also fail. A driver
that stands before a server calls it with a limit, and gives up a call that takes longer.
-/

namespace Ingest

/-- The rows of one write with their schema. -/
structure Batch where
  table : String
  schema : Schema
  rows : List Row

/-- The operations of a warehouse. -/
structure Driver (m : Type → Type) where
  createTable : String → Schema → ExceptT Failure m Unit
  addColumn : String → Field → ExceptT Failure m Unit
  /-- The fields of a schema that a table does not have. -/
  missingColumns : String → Schema → ExceptT Failure m (List Field)
  write : String → Schema → List Row → ExceptT Failure m Unit

namespace Driver

variable {m n : Type → Type}

def lift (f : {α : Type} → m α → n α) (d : Driver m) : Driver n where
  createTable table schema := ExceptT.mk (f (d.createTable table schema).run)
  addColumn table field := ExceptT.mk (f (d.addColumn table field).run)
  missingColumns table schema := ExceptT.mk (f (d.missingColumns table schema).run)
  write table schema rows := ExceptT.mk (f (d.write table schema rows).run)

def attempt {α : Type} [Monad m] (x : ExceptT Failure m α) : ExceptT Failure m (Outcome α) :=
  ExceptT.lift x.run

end Driver

/-! ## Calls -/

/-- A server and its clock are a part of a state: `clocked` is that part, and `advance` puts another
in its place. -/
class HasServer (τ : Type) (σ : outParam Type) (clocked : outParam (τ → Clocked σ))
    (advance : outParam (Clocked σ → τ → τ)) : Prop where
  clocked_advance : ∀ c s, clocked (advance c s) = c

instance {σ : Type} : HasServer (Clocked σ) σ (fun c => c) (fun c _ => c) :=
  ⟨fun _ _ => rfl⟩

namespace Effect

variable {τ σ ε α : Type} {clocked : τ → Clocked σ} {advance : Clocked σ → τ → τ}

/-- A result without effects. -/
def ofOutcome (o : Outcome α) : ExceptT Failure (StateM τ) α :=
  ExceptT.mk (pure o)

/-- A call with a limit; `late` is the failure of giving it up. -/
def timed [HasServer τ σ clocked advance] (limit : Nat) (late : Failure) (call : Call σ ε α) :
    ExceptT Failure (StateM τ) (Except ε α) :=
  ExceptT.mk fun s =>
    match Clocked.await limit call (clocked s) with
    | (some answer, c) => (.ok answer, advance c s)
    | (none, c) => (.error late, advance c s)

end Effect
end Ingest
