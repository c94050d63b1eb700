import Ingest.Schema.Basic

/-!
# CREATE statements

The text of a statement that creates a table. What a warehouse decides (the phrase before the
column list, the text of a column and what follows the list) is given by a `Dialect`.
-/

namespace Ingest

/-- What a warehouse writes into a CREATE statement. -/
structure Dialect where
  /-- The phrase after CREATE, with the name of the table. -/
  predicate : String → String
  /-- The text after a column's name. -/
  column : Field → Outcome String
  /-- What follows the list of columns. -/
  suffix : String → String

namespace Dialect

/-- What follows the list of columns as it is appended. A text that begins with a line feed, or
with a backspace and a line feed, is appended without a blank before it. -/
def appended (suffix : String) : String :=
  match suffix.toList with
  | [] => ""
  | '\n' :: _ => suffix
  | '\x08' :: '\n' :: rest => String.ofList ('\n' :: rest)
  | _ => " " ++ suffix

/-- The name and the text of each column. -/
def columns (d : Dialect) (fields : List Field) : Outcome (List String) :=
  fields.mapM fun f => (d.column f).map fun text => f.name ++ " " ++ text

/-- The columns, each on a line of its own, separated by commas. -/
def columnLines : List String → String
  | [] => ""
  | [column] => "  " ++ column ++ "\n"
  | column :: next :: rest => "  " ++ column ++ ",\n" ++ columnLines (next :: rest)

def createTable (d : Dialect) (table : String) (schema : Schema) : Outcome String := do
  let columns ← d.columns schema.fields
  return "CREATE " ++ d.predicate table ++ " (\n" ++ columnLines columns ++ ")" ++
    appended (d.suffix table)

end Dialect
end Ingest
