import Ingest.Calendar.Span
import Ingest.Text.Quoted

/-!
# Failures

Everything that can go wrong between a row and a warehouse. A failure names its cause; `message`
words it for people.
-/

namespace Ingest

/-- A column whose type in the table does not fit the type that is asked for. -/
structure Incompatibility where
  table : String
  column : String
  existing : String
  expected : String
  detail : Option String
  deriving DecidableEq

/-- The causes of failure. -/
inductive Failure where
  /-- A type has no counterpart in a warehouse. -/
  | unsupportedMapping (typeName mapper : String)
  /-- A warehouse cannot do what is asked. -/
  | unsupportedWarehouseType (warehouse operation : String)
  | tableNotFound (table : String)
  | tableAlreadyExists (table : String)
  | columnAlreadyExists (table column : String)
  | invalidIdentifier (value reason : String)
  | typeIncompatible (entry : Incompatibility)
  | multipleTypeIncompatible (table : String) (entries : List Incompatibility)
  /-- A created table did not become visible in time. -/
  | creationVerificationTimeout (table : String) (elapsed : Calendar.Span)
  | duplicateField (name : String)
  /-- A value is of another kind than its column. -/
  | invalidValue (expected actual : String)
  | valueOutOfRange (value target : String)
  /-- A table has other columns than the rows that are written. -/
  | schemaMismatch (table reason : String)
  | invalidConfig (reason : String)
  | timeout (operation : String) (elapsed : Calendar.Span)
  /-- A driver takes no more rows. -/
  | driverClosed
  | internal (reason : String)
  /-- A failure of a warehouse, with the causes behind it. -/
  | backend (outermost : String) (causes : List String)
  deriving DecidableEq

namespace Incompatibility

def message (e : Incompatibility) : String :=
  let subject := "column " ++ Text.quoted e.column ++ " in table " ++ Text.quoted e.table ++
    " has incompatible type: "
  match e.detail with
  | some detail => subject ++ detail
  | none =>
    subject ++ "existing=" ++ Text.quoted e.existing ++ ", expected=" ++ Text.quoted e.expected

def line (e : Incompatibility) : String :=
  "\n  - column " ++ Text.quoted e.column ++ ": existing=" ++ Text.quoted e.existing ++
    ", expected=" ++ Text.quoted e.expected ++
    match e.detail with
    | some detail => " (" ++ detail ++ ")"
    | none => ""

/-- The wording of the entries of one table; a single entry is worded as if it stood alone. -/
def listMessage (table : String) : List Incompatibility → String
  | [e] => e.message
  | entries =>
    "table " ++ Text.quoted table ++ " has " ++ Text.natText entries.length ++
      " type incompatibilities:" ++ String.join (entries.map line)

end Incompatibility

namespace Failure

def kind : Failure → String
  | unsupportedMapping _ _ => "UnsupportedMapping"
  | unsupportedWarehouseType _ _ => "UnsupportedWarehouseType"
  | tableNotFound _ => "TableNotFound"
  | tableAlreadyExists _ => "TableAlreadyExists"
  | columnAlreadyExists _ _ => "ColumnAlreadyExists"
  | invalidIdentifier _ _ => "InvalidIdentifier"
  | typeIncompatible _ => "TypeIncompatible"
  | multipleTypeIncompatible _ _ => "MultipleTypeIncompatible"
  | creationVerificationTimeout _ _ => "CreationVerificationTimeout"
  | duplicateField _ => "DuplicateField"
  | invalidValue _ _ => "InvalidValue"
  | valueOutOfRange _ _ => "ValueOutOfRange"
  | schemaMismatch _ _ => "SchemaMismatch"
  | invalidConfig _ => "InvalidConfig"
  | timeout _ _ => "Timeout"
  | driverClosed => "DriverClosed"
  | internal _ => "Internal"
  | backend _ _ => "Backend"

def message : Failure → String
  | unsupportedMapping typeName mapper =>
    "mapper " ++ Text.quoted mapper ++ " does not support type " ++ Text.quoted typeName
  | unsupportedWarehouseType warehouse operation =>
    "warehouse type " ++ Text.quoted warehouse ++ " does not support operation " ++
      Text.quoted operation
  | tableNotFound table => "table " ++ Text.quoted table ++ " not found"
  | tableAlreadyExists table => "table " ++ Text.quoted table ++ " already exists"
  | columnAlreadyExists table column =>
    "column " ++ Text.quoted column ++ " already exists in table " ++ Text.quoted table
  | invalidIdentifier value reason =>
    "invalid identifier " ++ Text.quoted value ++ ": " ++ reason
  | typeIncompatible entry => entry.message
  | multipleTypeIncompatible table entries => Incompatibility.listMessage table entries
  | creationVerificationTimeout table elapsed =>
    "table " ++ Text.quoted table ++ " was not visible after " ++ elapsed.text
  | duplicateField name => "duplicate field name " ++ Text.quoted name ++ " in schema"
  | invalidValue expected actual => "expected " ++ expected ++ " value, got " ++ actual
  | valueOutOfRange value target => "value " ++ value ++ " is out of range for " ++ target
  | schemaMismatch table reason =>
    "schema does not match table " ++ Text.quoted table ++ ": " ++ reason
  | invalidConfig reason => "invalid configuration: " ++ reason
  | timeout operation elapsed => operation ++ " timed out after " ++ elapsed.text
  | driverClosed => "driver is closed"
  | internal reason => "internal error: " ++ reason
  | backend outermost _ => outermost

/-- Whether the cause is a missing table. -/
def isTableNotFound : Failure → Bool
  | tableNotFound _ => true
  | _ => false

def isUnsupportedMapping : Failure → Bool
  | unsupportedMapping _ _ => true
  | _ => false

/-- A failure of a warehouse from its causes, the innermost first; the outermost words it. -/
def ofCauses (causes : List String) : Failure :=
  match causes.reverse with
  | [] => backend "" []
  | outermost :: rest => backend outermost rest

end Failure

/-- A result or the failure that stands in its place. -/
abbrev Outcome (α : Type) := Except Failure α

end Ingest
