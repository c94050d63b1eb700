import Ingest.BigQuery.Table
import Ingest.Failure
import Ingest.Timing

/-!
# BigQuery service

What the service is asked and how it reports errors.
-/

namespace Ingest
namespace BigQuery

/-- An error of the service. -/
structure ApiError where
  status : Nat
  reason : String
  text : String
  deriving DecidableEq

namespace ApiError

def isNotFound (e : ApiError) : Bool :=
  e.status == 404 || e.reason == "notFound"

def isAlreadyExists (e : ApiError) : Bool :=
  e.status == 409 || e.reason == "duplicate" || e.reason == "alreadyExists"

def message (e : ApiError) : String :=
  "bigquery api error " ++ Text.natText e.status ++ " (" ++ e.reason ++ "): " ++ e.text

def toFailure (e : ApiError) : Failure :=
  .backend e.message []

end ApiError

/-- The calls that the service answers, each with a change of its state. Tables are given by
dataset and name. -/
structure Client (σ : Type) where
  createTable : String → String → TableMetadata → Call σ ApiError Unit
  tableMetadata : String → String → Call σ ApiError TableMetadata
  /-- Replaces the fields of a table whose version has a tag. -/
  updateSchema : String → String → List FieldSchema → Option String → Call σ ApiError Unit
  query : String → Call σ ApiError Unit
  /-- Takes a list of objects. -/
  insertRows : String → String → List Json → Call σ ApiError Unit
  /-- Takes a text with one object per line. -/
  loadLines : String → String → String → Call σ ApiError Unit

end BigQuery
end Ingest
