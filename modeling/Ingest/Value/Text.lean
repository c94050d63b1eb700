import Ingest.Json.Basic
import Ingest.Text.Quoted
import Ingest.Value.Basic

/-!
# Values as text

The JSON form of a value, and the text that messages show. A number that JSON cannot express
becomes null.
-/

namespace Ingest

/-- Which digits stand for a number of the 32-bit format in JSON. -/
inductive SingleForm where
  /-- Those of the same number in the 64-bit format. -/
  | widened
  /-- The fewest that identify it in its own format. -/
  | shortest
  deriving DecidableEq, Repr

namespace Value

def singleJson (form : SingleForm) (bits : UInt32) : Json :=
  match form with
  | .widened => .ofNumber .double (number64 (Floating.widen bits))
  | .shortest => .ofNumber .single (number32 bits)

mutual

def toJson (form : SingleForm) : Value → Json
  | null => .null
  | bool b => .bool b
  | int32 n => .int n.toInt
  | int64 n => .int n.toInt
  | float32 bits => singleJson form bits
  | float64 bits => .ofNumber .double (number64 bits)
  | string s => .string s
  | binary bytes => .array (bytes.map fun b => .int b.toNat)
  | date d => .string d.text
  | timestamp t => .string t.text
  | list items => .array (itemsToJson form items)
  | struct members => .object (membersToJson form members)

def itemsToJson (form : SingleForm) : List Value → List Json
  | [] => []
  | v :: vs => v.toJson form :: itemsToJson form vs

def membersToJson (form : SingleForm) : List (String × Value) → List (String × Json)
  | [] => []
  | (k, v) :: rest => (k, v.toJson form) :: membersToJson form rest

end

def text : Value → String
  | null => "null"
  | bool b => if b then "true" else "false"
  | int32 n => Text.intText n.toInt
  | int64 n => Text.intText n.toInt
  | float32 bits => (number32 bits).text Floating.single
  | float64 bits => (number64 bits).text Floating.double
  | string s => Text.quoted s
  | date d => d.text
  | timestamp t => t.offsetText
  | v => (v.toJson .widened).text

end Value

namespace Row

def toJson (form : SingleForm) (row : Row) : Json :=
  .object (Value.membersToJson form row)

end Row
end Ingest
