import Ingest.Mapping

/-!
# Formatting rows

A row format holds, for each column of a schema, the column type that it is mapped to. Every
row is sent with exactly these columns: what a row lacks is null and what it has beside is dropped.
-/

namespace Ingest

/-- A column with its column type and the metadata of its field. -/
structure FormatColumn (W : Type) where
  name : String
  type : W
  metadata : Metadata

/-- The columns that rows are sent with. -/
structure RowFormat (W : Type) where
  columns : List (FormatColumn W)

namespace RowFormat

variable {W : Type} [WarehouseType W]

/-- Maps every field of a schema; the first that has no counterpart is refused. -/
def ofSchema (mapper : TypeMapper W) (schema : Schema) : Outcome (RowFormat W) :=
  (schema.fields.mapM fun f =>
    (mapper.toWarehouse f.neutral).map fun w => (⟨f.name, w, f.metadata⟩ : FormatColumn W)).map
    RowFormat.mk

def cell (column : FormatColumn W) (row : Row) : Outcome Value :=
  WarehouseType.format column.type (Row.value row column.name) column.metadata

/-- The values of a row in the order of the columns. -/
def cells (f : RowFormat W) (row : Row) : Outcome (List (String × Value)) :=
  f.columns.mapM fun c => (cell c row).map fun v => (c.name, v)

def format (f : RowFormat W) (row : Row) : Outcome Row :=
  (f.cells row).map Dict.ofList

/-- The rows as they are sent; the first that does not format is refused. -/
def formatAll (f : RowFormat W) (rows : List Row) : Outcome (List Row) :=
  rows.mapM f.format

end RowFormat
end Ingest
