import Ingest.Dict

/-!
# Field metadata

Metadata are texts under dotted keys, kept in the order of the keys. They carry options of a
column; whoever does not know a key ignores it.
-/

namespace Ingest

/-- Texts under distinct keys. -/
structure Metadata where
  entries : List (String × String)
  sorted : Dict.Sorted entries
  deriving DecidableEq

namespace Metadata

def empty : Metadata := ⟨[], List.Pairwise.nil⟩

instance : EmptyCollection Metadata := ⟨empty⟩

instance : Inhabited Metadata := ⟨empty⟩

def get? (m : Metadata) (key : String) : Option String :=
  Dict.get? m.entries key

def contains (m : Metadata) (key : String) : Bool :=
  (m.get? key).isSome

def insert (m : Metadata) (key value : String) : Metadata :=
  ⟨Dict.insert m.entries key value, Dict.sorted_insert m.sorted key value⟩

def erase (m : Metadata) (key : String) : Metadata :=
  ⟨Dict.erase m.entries key, Dict.sorted_erase m.sorted key⟩

/-- All entries of both; those of the second win. -/
def merge (m other : Metadata) : Metadata :=
  ⟨Dict.merge m.entries other.entries, Dict.sorted_merge m.sorted other.entries⟩

/-- The entries of a list; of two under one key the later wins. -/
def ofList (entries : List (String × String)) : Metadata :=
  ⟨Dict.ofList entries, Dict.sorted_ofList entries⟩

def size (m : Metadata) : Nat :=
  m.entries.length

def isEmpty (m : Metadata) : Bool :=
  m.entries.isEmpty

/-- A flag is set by the text "true" and by no other. -/
def flag (m : Metadata) (key : String) : Bool :=
  m.get? key == some "true"

/-- The key of a description of the column. -/
def descriptionKey : String := "column.description"

/-- The key of the flag that asks ClickHouse for a dictionary-encoded column. -/
def lowCardinalityKey : String := "warehouse.clickhouse.low_cardinality"

/-- The key of the compression codec of a ClickHouse column. -/
def codecKey : String := "warehouse.clickhouse.codec"

theorem get?_insert (m : Metadata) (key value k : String) :
    (m.insert key value).get? k = if k = key then some value else m.get? k :=
  Dict.get?_insert m.entries key value k

end Metadata
end Ingest
