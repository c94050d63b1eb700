import Ingest.BigQuery.ColumnType
import Ingest.BigQuery.Config
import Ingest.BigQuery.Visibility
import Ingest.Driver.Basic
import Ingest.Format.Row

/-!
# BigQuery driver

Tables are created with their fields, waited for until they are visible, and then given their
partition expiration. A column is added by replacing the fields of the version that was read. Rows
are sent as a list of objects, or as a text in which each object stands on a line of its own; nothing
is sent unless every row formats.
-/

namespace Ingest
namespace BigQuery

/-! ## What is sent -/

/-- Sets the expiration of partitions; zero days clear it. -/
def expirationStatement (dataset table : String) (days : Nat) : String :=
  "ALTER TABLE " ++ Identifier.backticked dataset ++ "." ++ Identifier.backticked table ++
    " SET OPTIONS (partition_expiration_days = " ++
    (if days = 0 then "NULL" else Text.natText days) ++ ")"

/-- Rows as they are sent. -/
inductive Payload where
  | objects (rows : List Json)
  | lines (text : String)

def rowObjects (format : RowFormat ColumnType) (rows : List Row) : Outcome (List Json) :=
  (format.formatAll rows).map fun formatted => formatted.map (Row.toJson .widened)

/-- The lines of objects; each ends with a line feed. -/
def lineText (objects : List Json) : String :=
  String.join (objects.map fun o => o.text ++ "\n")

def Payload.ofRows (kind : WriterKind) (format : RowFormat ColumnType) (rows : List Row) :
    Outcome Payload :=
  (rowObjects format rows).map fun objects =>
    match kind with
    | .streaming => .objects objects
    | .loadJob => .lines (lineText objects)

/-! ## Calls -/

/-- What a driver does: time passes while the service works, and it may fail. -/
abbrev Action (σ α : Type) := ExceptT Failure (StateM (Clocked σ)) α

namespace Action

variable {σ α : Type}

abbrev timed (config : Config) (operation : String) (call : Call σ ApiError α) :
    Action σ (Except ApiError α) :=
  Effect.timed config.queryTimeoutMs (.timeout operation config.queryTimeout) call

end Action

namespace Config

variable {σ : Type}

def qualified (config : Config) (table : String) : String :=
  Identifier.qualified config.dataset table

/-- The description of a table. -/
def tableMetadata (config : Config) (client : Client σ) (table : String) :
    Action σ TableMetadata := do
  match ← Action.timed config "table metadata" (client.tableMetadata config.dataset table) with
  | .ok t => return t
  | .error e =>
    if e.isNotFound then throw (.tableNotFound (config.qualified table)) else throw e.toFailure

def storedField (f : Field) : Outcome FieldSchema := do
  Identifier.validate f.name
  let column ← toColumn f.neutral
  return column.toFieldSchema f.name (f.metadata.get? Metadata.descriptionKey)

/-- The description of the table of a schema. -/
def newTable (config : Config) (schema : Schema) : Outcome TableMetadata := do
  let fields ← schema.fields.mapM storedField
  return ⟨fields, config.partitioning.map (·.timePartitioning), none⟩

def waitUntilVisible (config : Config) (client : Client σ) (table : String) : Action σ Unit :=
  ExceptT.mk fun c =>
    match awaitVisible config.queryTimeoutMs (client.tableMetadata config.dataset table)
        (c.now + config.tableCreationTimeoutMs) (c.now + lookInterval) c with
    | (some (.ok ()), c) => (.ok (), c)
    | (some (.error e), c) => (.error e.toFailure, c)
    | (none, c) =>
      (.error (.creationVerificationTimeout (config.qualified table)
        config.tableCreationTimeout), c)

def setExpiration (config : Config) (client : Client σ) (table : String) (p : Partitioning) :
    Action σ Unit := do
  let sql := expirationStatement config.dataset table p.expirationDays
  match ← Action.timed config "set partition expiration" (client.query sql) with
  | .ok () => return
  | .error e =>
    throw (.backend "created table, but failed to set partition expiration" [e.message])

/-! ## Operations -/

/-- Creates a table, waits until it is visible and sets its partition expiration. -/
def createTable (config : Config) (client : Client σ) (table : String) (schema : Schema) :
    Action σ Unit := do
  Effect.ofOutcome (Identifier.validate table)
  let metadata ← Effect.ofOutcome (config.newTable schema)
  match ← Action.timed config "create table"
      (client.createTable config.dataset table metadata) with
  | .ok () =>
    config.waitUntilVisible client table
    if let some p := config.partitioning then
      config.setExpiration client table p
  | .error e =>
    if e.isAlreadyExists then throw (.tableAlreadyExists (config.qualified table))
    else throw e.toFailure

/-- Adds a column that may be null or holds lists, unless the table has one of its name. -/
def addColumn (config : Config) (client : Client σ) (table : String) (field : Field) :
    Action σ Unit := do
  Effect.ofOutcome (Identifier.validate table)
  -- The tag of this version guards the update against changes by others.
  let current ← config.tableMetadata client table
  let alreadyExists := Failure.columnAlreadyExists (config.qualified table) field.name
  if current.schema.any fun f => f.name == field.name then throw alreadyExists
  let column ← Effect.ofOutcome (storedField field)
  if column.mode = .required then
    throw (.unsupportedWarehouseType mapperName ("add required column " ++ field.name))
  match ← Action.timed config "update schema"
      (client.updateSchema config.dataset table (current.schema ++ [column]) current.etag) with
  | .ok () => return
  | .error e => if e.isAlreadyExists then throw alreadyExists else throw e.toFailure

def existingField (f : FieldSchema) : Outcome Field :=
  f.neutral.map fun t => t.named f.name

def missingColumns (config : Config) (client : Client σ) (table : String) (schema : Schema) :
    Action σ (List Field) := do
  let current ← config.tableMetadata client table
  Effect.ofOutcome do
    let existing ← current.schema.mapM existingField
    Ingest.missingColumns (config.qualified table) (indexFields existing) checker schema

def send (config : Config) (client : Client σ) (table : String) :
    Payload → Call σ ApiError Unit
  | .objects rows => client.insertRows config.dataset table rows
  | .lines text => client.loadLines config.dataset table text

/-- Sends rows; no rows need no call. -/
def write (config : Config) (client : Client σ) (table : String) (schema : Schema)
    (rows : List Row) : Action σ Unit := do
  if rows.isEmpty then return
  let format ← Effect.ofOutcome (RowFormat.ofSchema mapper schema)
  let payload ← Effect.ofOutcome (Payload.ofRows config.writer format rows)
  match ← Action.timed config ("write " ++ config.qualified table)
      (config.send client table payload) with
  | .ok () => return
  | .error e => throw e.toFailure

def driver (config : Config) (client : Client σ) : Driver (StateM (Clocked σ)) where
  createTable := config.createTable client
  addColumn := config.addColumn client
  missingColumns := config.missingColumns client
  write := config.write client

end Config
end BigQuery
end Ingest
