import Ingest.Driver.Basic
import Ingest.Event
import Ingest.Value.Text

/-!
# Drivers that note what happens

`noop` accepts everything, `console` notes everything and keeps nothing, and `debugging` and
`logging` note what passes on its way to another driver.
-/

namespace Ingest
namespace Driver

variable {m : Type → Type} [Monad m]

/-- Accepts everything and does nothing; no table lacks a column. -/
def noop : Driver m where
  createTable _ _ := return ()
  addColumn _ _ := return ()
  missingColumns _ _ := return []
  write _ _ _ := return ()

def rowEvent (level : Level) (message table : String) (row : Row) : Event :=
  .about level message table [("row", .text (Row.toJson .shortest row).text)]

/-- Notes every change and every row. -/
def console (log : Event → m Unit) : Driver m where
  createTable table schema :=
    ExceptT.lift (log (.about .info "create table" table
      [("columns", .count schema.fields.length)]))
  addColumn table field :=
    ExceptT.lift (log (.about .info "add column" table
      [("column", .text field.name), ("data_type", .text field.type.text)]))
  missingColumns _ _ := return []
  write table _ rows := ExceptT.lift (rows.forM fun row => log (rowEvent .info "row" table row))

/-- Notes every row before it is written. -/
def debugging (log : Event → m Unit) (inner : Driver m) : Driver m :=
  { inner with
    write := fun table schema rows => do
      ExceptT.lift (rows.forM fun row => log (rowEvent .debug "writing row" table row))
      inner.write table schema rows }

def noted {α : Type} (log : Event → m Unit) (operation table : String)
    (action : ExceptT Failure m α) : ExceptT Failure m α := do
  match ← attempt action with
  | .ok a =>
    ExceptT.lift (log (.about .debug "driver call succeeded" table
      [("operation", .text operation)]))
    return a
  | .error e =>
    ExceptT.lift (log (.about .warn "driver call failed" table
      [("operation", .text operation), ("error", .text e.message)]))
    throw e

/-- Notes the outcome of every operation, and the number of rows that were written. -/
def logging (log : Event → m Unit) (inner : Driver m) : Driver m where
  createTable table schema := noted log "create_table" table (inner.createTable table schema)
  addColumn table field := noted log "add_column" table (inner.addColumn table field)
  missingColumns table schema :=
    noted log "missing_columns" table (inner.missingColumns table schema)
  write table schema rows := noted log "write" table do
    inner.write table schema rows
    ExceptT.lift (log (.about .debug "rows written" table [("rows", .count rows.length)]))

end Driver
end Ingest
