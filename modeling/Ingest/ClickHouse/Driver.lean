import Ingest.ClickHouse.Folding
import Ingest.ClickHouse.Statement
import Ingest.Driver.Basic
import Ingest.Format.Row
import Ingest.Schema.Diff

/-!
# ClickHouse driver

Tables are created and extended by statements, and compared with a schema by the description that
the server gives. Rows are inserted in the order of the table's columns; the list of columns is
kept for a while, and dropped when the driver changes the table or finds that the list does not
fit the schema.
-/

namespace Ingest
namespace ClickHouse

/-- The columns of a table and when the server named them. -/
structure CachedColumns where
  fetchedAt : Nat
  names : List String
  deriving DecidableEq

/-- The state of a driver: the server, the time and the columns known by table. -/
structure Session (σ : Type) extends Clocked σ where
  cache : List (String × CachedColumns) := []

instance {σ : Type} :
    HasServer (Session σ) σ Session.toClocked (fun c s => { s with toClocked := c }) :=
  ⟨fun _ _ => rfl⟩

/-- A driver's settings: the configuration and the known time zones. -/
structure Setup where
  config : Config
  zones : Calendar.ZoneDatabase

/-- What a driver does: it changes its session, and it may fail. -/
abbrev Action (σ α : Type) := ExceptT Failure (StateM (Session σ)) α

namespace Action

variable {σ α : Type}

abbrev timed (setup : Setup) (operation : String) (call : Call σ ServerError α) :
    Action σ (Except ServerError α) :=
  Effect.timed setup.config.queryTimeoutMs (.timeout operation setup.config.queryTimeout) call

def forget (table : String) : Action σ Unit :=
  modify fun s => { s with cache := Dict.erase s.cache table }

end Action

namespace Setup

variable {σ : Type}

def qualified (setup : Setup) (table : String) : String :=
  Identifier.qualified setup.config.database table

/-- The columns of a table, folded; a table without columns does not exist. -/
def columnInfo (setup : Setup) (client : Client σ) (table : String) :
    Action σ (List ColumnInfo) := do
  match ← Action.timed setup "describe table" (client.columns setup.config.database table) with
  | .ok [] => throw (.tableNotFound (setup.qualified table))
  | .ok columns => return foldColumns columns
  | .error e =>
    if e.isUnknownTable then throw (.tableNotFound (setup.qualified table))
    else throw e.toFailure

/-- The field of a column. A column with a declared default counts as nullable. -/
def existingField (c : ColumnInfo) : Outcome Field := do
  let t ← neutralOf (← ColumnType.ofText c.type).type
  return { t with nullable := t.nullable || c.hasDefault }.named c.name

/-- The names of the columns of a table in order, from the cache or from the server. -/
def columnOrder (setup : Setup) (client : Client σ) (table : String) :
    Action σ (List String) := do
  let s ← get
  match Dict.get? s.cache table with
  | some cached =>
    if s.now - cached.fetchedAt < setup.config.columnsCacheTtlMs then return cached.names
    else fetch
  | none => fetch
where
  /-- Asks the server and keeps the answer. -/
  fetch : Action σ (List String) := do
    let names := (← setup.columnInfo client table).map (·.name)
    -- The answer is as old as its arrival, not as the question.
    modify fun s => { s with cache := Dict.insert s.cache table ⟨s.now, names⟩ }
    return names

/-- Refuses a list of columns that does not consist of the fields of a schema. -/
def checkLayout (setup : Setup) (table : String) (schema : Schema) (columns : List String) :
    Outcome Unit :=
  let mismatch (reason : String) := Failure.schemaMismatch (setup.qualified table) reason
  if columns.length ≠ schema.fields.length then
    .error (mismatch ("table has " ++ Text.natText columns.length ++ " columns, schema has " ++
      Text.natText schema.fields.length))
  else
    match columns.find? fun c => (schema.field? c).isNone with
    | some c => .error (mismatch ("column " ++ c ++ " is not in the schema"))
    | none => .ok ()

/-- The values of a formatted row in the order of columns. Each value is used once; a column
without one is null. -/
def layOut : List String → Row → List Value
  | [], _ => []
  | c :: rest, row => Row.value row c :: layOut rest (Dict.erase row c)

def batch (format : RowFormat ColumnType) (columns : List String) (rows : List Row) :
    Outcome (List (List Value)) :=
  rows.mapM fun row => (format.format row).map (layOut columns)

/-! ## Operations -/

def createTable (setup : Setup) (client : Client σ) (table : String) (schema : Schema) :
    Action σ Unit := do
  Effect.ofOutcome (Identifier.validate table)
  Effect.ofOutcome (schema.fields.forM fun f => Identifier.validate f.name)
  let sql ← Effect.ofOutcome
    ((setup.config.dialect setup.zones).createTable (setup.qualified table) schema)
  match ← Action.timed setup "create table" (client.exec sql) with
  | .ok () => Action.forget table
  | .error e =>
    if e.isTableExists then throw (.tableAlreadyExists (setup.qualified table))
    else throw e.toFailure

/-- Adds a column by a statement unless the table has one of its name. -/
def addColumn (setup : Setup) (client : Client σ) (table : String) (field : Field) :
    Action σ Unit := do
  Effect.ofOutcome (Identifier.validate table)
  Effect.ofOutcome (Identifier.validate field.name)
  let columns ← setup.columnInfo client table
  let alreadyExists := Failure.columnAlreadyExists (setup.qualified table) field.name
  if columns.any fun c => c.name == field.name then throw alreadyExists
  let sql ← Effect.ofOutcome (addColumnStatement setup.zones (setup.qualified table) field)
  match ← Action.timed setup "add column" (client.exec sql) with
  | .ok () => Action.forget table
  | .error e => if e.isDuplicateColumn then throw alreadyExists else throw e.toFailure

def missingColumns (setup : Setup) (client : Client σ) (table : String) (schema : Schema) :
    Action σ (List Field) := do
  let columns ← setup.columnInfo client table
  Effect.ofOutcome do
    let existing ← columns.mapM existingField
    Ingest.missingColumns (setup.qualified table) (indexFields existing)
      (.strictNullability []) schema

/-- Inserts rows; no rows need no call. -/
def write (setup : Setup) (client : Client σ) (table : String) (schema : Schema)
    (rows : List Row) : Action σ Unit := do
  if rows.isEmpty then return
  let format ← Effect.ofOutcome (RowFormat.ofSchema (mapper setup.zones) schema)
  let columns ← setup.columnOrder client table
  -- The list may be out of date, so the next write asks for a new one.
  if let .error e := setup.checkLayout table schema columns then
    Action.forget table
    throw e
  let values ← Effect.ofOutcome (batch format columns rows)
  let qualified := setup.qualified table
  match ← Action.timed setup ("insert into " ++ qualified)
      (client.insert qualified columns values) with
  | .ok () => return
  | .error e => throw e.toFailure

def driver (setup : Setup) (client : Client σ) : Driver (StateM (Session σ)) where
  createTable := setup.createTable client
  addColumn := setup.addColumn client
  missingColumns := setup.missingColumns client
  write := setup.write client

end Setup
end ClickHouse
end Ingest
