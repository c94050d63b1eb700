import Ingest.Driver.Basic
import Ingest.Event

/-!
# Reconciling a table with a schema

`reconcile` creates a table that does not exist and adds the columns that an existing one lacks.
Others may do the same at the same time: a table or a column that exists already is no failure. A
table that others create between the two calls is looked at again, as often as the given number of
rounds allows.
-/

namespace Ingest

/-- What reconciling did. -/
inductive Reconciled where
  | unchanged
  | created
  /-- How many columns this call added. -/
  | columnsAdded (count : Nat)
  deriving DecidableEq, Repr

namespace Driver

variable {m : Type → Type} [Monad m]

/-- Adds one missing column and counts it, unless it was added by others. -/
def addMissing (driver : Driver m) (log : Event → m Unit) (table : String) (field : Field) :
    ExceptT Failure m Nat := do
  match ← attempt (driver.addColumn table field) with
  | .ok () => return 1
  | .error (.columnAlreadyExists _ _) =>
    ExceptT.lift (log (.about .debug "column added concurrently" table
      [("column", .text field.name)]))
    return 0
  | .error e => throw e

/-- Adds missing columns in order and counts those that this call added. -/
def addAllMissing (driver : Driver m) (log : Event → m Unit) (table : String) :
    List Field → ExceptT Failure m Nat
  | [] => return 0
  | field :: rest => do
    let here ← driver.addMissing log table field
    let there ← driver.addAllMissing log table rest
    return here + there

def extend (driver : Driver m) (log : Event → m Unit) (table : String) (missing : List Field) :
    ExceptT Failure m Reconciled := do
  let added ← driver.addAllMissing log table missing
  if added = 0 then return .unchanged
  ExceptT.lift (log (.about .info "added columns" table [("added", .count added)]))
  return .columnsAdded added

/-- Brings a table in line with a schema. `none` means that the rounds did not suffice: each time
the table was reported missing, and existing as soon as it was to be created. -/
def reconcile (driver : Driver m) (log : Event → m Unit) (table : String) (schema : Schema) :
    Nat → ExceptT Failure m (Option Reconciled)
  | 0 => return none
  | rounds + 1 => do
    match ← attempt (driver.missingColumns table schema) with
    | .ok missing => return some (← driver.extend log table missing)
    | .error (.tableNotFound _) =>
      match ← attempt (driver.createTable table schema) with
      | .ok () => return some .created
      | .error (.tableAlreadyExists _) => do
        ExceptT.lift (log (.about .debug "table created concurrently" table []))
        driver.reconcile log table schema rounds
      | .error e => throw e
    | .error e => throw e

end Driver
end Ingest
