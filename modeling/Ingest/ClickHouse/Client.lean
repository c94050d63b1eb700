import Ingest.Failure
import Ingest.Json.Basic
import Ingest.Timing
import Ingest.Value.Basic

/-!
# ClickHouse servers

What a server is asked and how it reports columns and errors.
-/

namespace Ingest
namespace ClickHouse

/-- A column as a server describes it. -/
structure ColumnInfo where
  name : String
  type : String
  defaultKind : String := ""
  deriving DecidableEq

namespace ColumnInfo

def declaredDefault : String := "DEFAULT"

def withDefault (c : ColumnInfo) : ColumnInfo :=
  { c with defaultKind := declaredDefault }

def hasDefault (c : ColumnInfo) : Bool :=
  c.defaultKind == declaredDefault

def toJson (c : ColumnInfo) : Json :=
  .object [("default_kind", .string c.defaultKind), ("name", .string c.name),
    ("type", .string c.type)]

/-- Reads a column; the kind of default may be absent. -/
def ofJson? (j : Json) : Option ColumnInfo := do
  let r ← j.record? ["name", "type", "default_kind"]
  let name ← r.required "name" Json.asString?
  let type ← r.required "type" Json.asString?
  let defaultKind ← r.defaulted "default_kind" "" Json.asString?
  return ⟨name, type, defaultKind⟩

end ColumnInfo

/-- An error of a server. -/
structure ServerError where
  code : Int
  text : String
  deriving DecidableEq

namespace ServerError

def isTableExists (e : ServerError) : Bool :=
  e.code == 57

def isDuplicateColumn (e : ServerError) : Bool :=
  e.code == 15 || e.code == 44

def isUnknownTable (e : ServerError) : Bool :=
  e.code == 60

def message (e : ServerError) : String :=
  "clickhouse error code " ++ Text.intText e.code ++ ": " ++ e.text

def toFailure (e : ServerError) : Failure :=
  .backend e.message []

end ServerError

/-- The calls that a server answers, each with a change of the server's state. -/
structure Client (σ : Type) where
  exec : String → Call σ ServerError Unit
  /-- The columns of a table of a database. -/
  columns : String → String → Call σ ServerError (List ColumnInfo)
  /-- Rows for a table, given by the names of the columns and the values in their order. -/
  insert : String → List String → List (List Value) → Call σ ServerError Unit

end ClickHouse
end Ingest
