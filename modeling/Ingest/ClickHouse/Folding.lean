import Ingest.ClickHouse.Client
import Ingest.ClickHouse.TypeName.Parser
import Ingest.Dict

/-!
# Folding flattened columns

A server can store a nested column as arrays whose names are the name of the column, a full stop
and the name of the part. `foldColumns` puts such columns together again, at the place of the first.
-/

namespace Ingest
namespace ClickHouse

/-- A text before and after its first full stop. -/
def splitAtStop (name : String) : Option (String × String) :=
  let cs := name.toList
  match cs.dropWhile (· != '.') with
  | _ :: rest => some (String.ofList (cs.takeWhile (· != '.')), String.ofList rest)
  | [] => none

/-- A part of a nested column. -/
structure FlatPart where
  parent : String
  name : String
  type : TypeName

/-- The part of a nested column that a column is, if it is one. -/
def ColumnInfo.flatPart? (c : ColumnInfo) : Option FlatPart := do
  let (parent, name) ← splitAtStop c.name
  match TypeName.parse c.type with
  | .ok (.array element) => some ⟨parent, name, element⟩
  | _ => none

/-- Where the folding of a list stands: the columns so far, in which the place of a nested column is
kept by its name, and for each nested column its place and its parts. -/
structure Folding where
  columns : List ColumnInfo := []
  nested : List (String × Nat × List (String × TypeName)) := []

namespace Folding

/-- Takes one more column. The first part of a nested column opens a place for it. -/
def add (s : Folding) (c : ColumnInfo) : Folding :=
  match c.flatPart? with
  | some p =>
    match Dict.get? s.nested p.parent with
    | some (place, parts) =>
      { s with nested := Dict.insert s.nested p.parent (place, parts ++ [(p.name, p.type)]) }
    | none =>
      { columns := s.columns ++ [⟨p.parent, "", ""⟩]
        nested := Dict.insert s.nested p.parent (s.columns.length, [(p.name, p.type)]) }
  | none => { s with columns := s.columns ++ [c] }

/-- Puts the type of a nested column in its place. -/
def fill (columns : List ColumnInfo) (place : Nat) (parts : List (String × TypeName)) :
    List ColumnInfo :=
  columns.modify place fun c => { c with type := (TypeName.nested parts).text }

/-- The columns with all places filled. -/
def filled (s : Folding) : List ColumnInfo :=
  s.nested.foldl (fun columns e => fill columns e.2.1 e.2.2) s.columns

end Folding

/-- Puts the parts of nested columns together, at the place of the first part. -/
def foldColumns (columns : List ColumnInfo) : List ColumnInfo :=
  (columns.foldl Folding.add {}).filled

end ClickHouse
end Ingest
