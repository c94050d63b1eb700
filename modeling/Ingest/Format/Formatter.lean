import Ingest.Failure
import Ingest.Metadata
import Ingest.Value.Text

/-!
# Formatters

A formatter turns a value of a row into the value that a column is sent, or refuses it. The
formatters of scalars that all warehouses share stand here.
-/

namespace Ingest

/-- Turns a value, with the metadata of its field, into the value that is sent. -/
abbrev Formatter := Value → Metadata → Outcome Value

namespace Formatter

def describe (_ : Formatter) : String :=
  "Formatter"

/-- Sends every value as it is. -/
def passthrough : Formatter := fun v _ => .ok v

/-- Refuses every value of a type that was only read back from a table. -/
def unsupported (typeName : String) : Formatter := fun _ _ =>
  .error (.internal ("type " ++ typeName ++ " does not support formatting"))

/-- Sends null as null and leaves all else to the formatter. -/
def nullPassthrough (f : Formatter) : Formatter := fun v m =>
  if v.isNull then .ok .null else f v m

/-- Sends `fallback` in place of null. -/
def nullAs (fallback : Value) (f : Formatter) : Formatter := fun v m =>
  if v.isNull then f fallback m else f v m

def refuse (expected : String) (v : Value) : Outcome Value :=
  .error (.invalidValue expected v.kind)

/-! ## Scalars -/

def string : Formatter := fun v _ =>
  match v with
  | .string s => .ok (.string s)
  | v => refuse "string" v

def bool : Formatter := fun v _ =>
  match v with
  | .bool b => .ok (.bool b)
  | v => refuse "bool" v

/-- Sends integers of 64 bits; shorter ones are widened. -/
def int64 : Formatter := fun v _ =>
  match v with
  | .int32 n => .ok (.int64 n.toInt64)
  | .int64 n => .ok (.int64 n)
  | v => refuse "int64" v

/-- Sends integers of 32 bits; longer ones must be in range. -/
def int32 : Formatter := fun v _ =>
  match v with
  | .int32 n => .ok (.int32 n)
  | .int64 n =>
    if Int32.minValue.toInt ≤ n.toInt ∧ n.toInt ≤ Int32.maxValue.toInt then .ok (.int32 n.toInt32)
    else .error (.valueOutOfRange (Text.intText n.toInt) "int32")
  | v => refuse "int32" v

/-- Sends numbers of the 64-bit format; those of the 32-bit format are widened. -/
def float64 : Formatter := fun v _ =>
  match v with
  | .float32 bits => .ok (.float64 (Floating.widen bits))
  | .float64 bits => .ok (.float64 bits)
  | v => refuse "float64" v

/-- Sends numbers of the 32-bit format. Others are rounded unless they are too large. -/
def float32 : Formatter := fun v _ =>
  match v with
  | .float32 bits => .ok (.float32 bits)
  | .float64 bits =>
    let x := Value.number64 bits
    if x.exceeds Floating.single then
      .error (.valueOutOfRange (x.text Floating.double) "float32")
    else .ok (.float32 (Floating.narrow bits))
  | v => refuse "float32" v

/-- Sends dates as text. Of an instant the date in UTC is taken; a text must be a date already and
stays as it is. -/
def date : Formatter := fun v _ =>
  match v with
  | .date d => .ok (.string d.text)
  | .timestamp t => .ok (.string t.date.text)
  | .string s =>
    if (Calendar.readDate s.toList).isSome then .ok (.string s)
    else .error (.invalidValue "YYYY-MM-DD date" s)
  | v => refuse "date" v

/-! ## Composites -/

/-- Sends the items of a list; null stands for the empty list. -/
def list (item : Formatter) : Formatter := fun v m =>
  match v with
  | .list items => (items.mapM fun i => item i m).map .list
  | .null => .ok (.list [])
  | v => refuse "list" v

/-- The members of a record in the order of the formatters; an absent member is null. -/
def members (formatters : List (String × Formatter)) (record : List (String × Value))
    (m : Metadata) : Outcome (List (String × Value)) :=
  formatters.mapM fun f => (f.2 (Row.value record f.1) m).map fun v => (f.1, v)

/-- Sends records with exactly the members that have a formatter. -/
def struct (formatters : List (String × Formatter)) : Formatter := fun v m =>
  match v with
  | .struct record => (members formatters record m).map fun ms => .struct (Dict.ofList ms)
  | v => refuse "struct" v

end Formatter
end Ingest
