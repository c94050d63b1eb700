import Ingest.ClickHouse.ColumnType
import Ingest.ClickHouse.Config
import Ingest.Ddl
import Ingest.Text.Classes

/-!
# ClickHouse statements

The statements that create tables and add columns.
-/

namespace Ingest
namespace ClickHouse

/-- The clause of a compression codec. -/
def codecClause (parts : List String) : String :=
  "CODEC(" ++ ", ".intercalate parts ++ ")"

/-- The codec clause of a field, from its metadata. -/
def fieldCodec (f : Field) : Outcome (Option String) :=
  match f.metadata.get? Metadata.codecKey with
  | none => .ok none
  | some text =>
    let clause := Text.trimmed text
    if clause.isEmpty then
      .error (.invalidConfig ("codec metadata for column " ++ f.name ++ " must not be empty"))
    else if !"CODEC(".toList.isPrefixOf clause.toList then
      .error (.invalidConfig
        ("codec metadata for column " ++ f.name ++ " must start with 'CODEC('"))
    else .ok (some clause)

def fieldDefinition (zones : Calendar.ZoneDatabase) (f : Field) : Outcome String := do
  let column ← toColumn zones f.neutral
  match ← fieldCodec f with
  | some clause => return column.definition ++ " " ++ clause
  | none => return column.definition

namespace Config

def clauses (c : Config) : List String :=
  ["ENGINE = " ++ c.engine] ++
    ((c.partitionBy.filter fun p => !p.isEmpty).map ("PARTITION BY " ++ ·)).toList ++
    (if c.orderBy.isEmpty then [] else ["ORDER BY (" ++ ", ".intercalate c.orderBy ++ ")"]) ++
    ((c.indexGranularity.filter (0 < ·)).map fun n =>
      "SETTINGS index_granularity = " ++ Text.natText n).toList

def suffix (c : Config) : String :=
  "\n".intercalate c.clauses ++ ";"

def dialect (c : Config) (zones : Calendar.ZoneDatabase) : Dialect where
  predicate table := "TABLE " ++ table
  column := fieldDefinition zones
  suffix _ := c.suffix

end Config

def addColumnStatement (zones : Calendar.ZoneDatabase) (table : String) (f : Field) :
    Outcome String := do
  let definition ← fieldDefinition zones f
  return "ALTER TABLE " ++ table ++ " ADD COLUMN " ++ f.name ++ " " ++ definition

end ClickHouse
end Ingest
