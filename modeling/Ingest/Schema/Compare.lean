import Ingest.Schema.DataType
import Ingest.Text.Quoted

/-!
# Comparing types

`mismatch` compares two types part by part and gives the first place where they differ, with the
difference found there. Rules can declare a pair compatible at any depth; a pair that no rule
accepts is compared structurally.
-/

namespace Ingest

/-- What a rule says of a pair of types. -/
inductive Verdict where
  | notHandled
  | compatible
  /-- The pair is left to the structural comparison, whatever later rules say. -/
  | incompatible
  deriving DecidableEq, Repr

namespace Verdict

def describe : Verdict → String
  | notHandled => "NotHandled"
  | compatible => "Compatible"
  | incompatible => "Incompatible"

end Verdict

/-- A rule by which a warehouse takes two types for the same. -/
structure CompatibilityRule where
  name : String
  check : DataType → DataType → Verdict

namespace CompatibilityRule

/-- Accepts a pair of scalar types in either order. -/
def either (a b : Scalar) : DataType → DataType → Verdict
  | .scalar e, .scalar t => if (e = a ∧ t = b) ∨ (e = b ∧ t = a) then .compatible else .notHandled
  | _, _ => .notHandled

/-- The two widths of integers are interchangeable. -/
def intWidening : CompatibilityRule := ⟨"int_widening", either .int32 .int64⟩

/-- The two widths of floating-point numbers are interchangeable. -/
def floatWidening : CompatibilityRule := ⟨"float_widening", either .float32 .float64⟩

/-- Any two timestamps are interchangeable, whatever their units and zones. -/
def anyTimestamp : CompatibilityRule where
  name := "any_timestamp"
  check
    | .scalar (.timestamp _ _), .scalar (.timestamp _ _) => .compatible
    | _, _ => .notHandled

def describe (r : CompatibilityRule) : String :=
  "CompatibilityRule(" ++ Text.quoted r.name ++ ")"

end CompatibilityRule

/-- Whether the first rule with a verdict on a pair accepts it. -/
def accepts (rules : List CompatibilityRule) (expected actual : DataType) : Bool :=
  match rules with
  | [] => false
  | rule :: rest =>
    match rule.check expected actual with
    | .compatible => true
    | .incompatible => false
    | .notHandled => accepts rest expected actual

/-! ## Differences -/

/-- One step from a type to a part of it. -/
inductive PathStep where
  | element
  /-- A member of a record, whose two names may differ. -/
  | position (index : Nat)
  /-- The type of a member of a record. -/
  | member (index : Nat) (name : String)
  deriving DecidableEq

/-- How two parts differ. -/
inductive Difference where
  | family (expected actual : String)
  | memberCount (expected actual : Nat)
  | memberName (expected actual : String)
  | nullability (expected actual : Bool)
  | timeUnit (expected actual : TimeUnit)
  | timeZone (expected actual : Option String)
  | text (expected actual : String)
  deriving DecidableEq

/-- The first difference of two types and the way to it. -/
structure Mismatch where
  steps : List PathStep
  difference : Difference
  deriving DecidableEq

namespace PathStep

def text : PathStep → String
  | element => "[LIST_ELEMENT]"
  | position i => ".STRUCT[" ++ Text.natText i ++ "]"
  | member i name => ".STRUCT[" ++ Text.natText i ++ "]." ++ name

end PathStep

def stepsPath (start : String) (steps : List PathStep) : String :=
  start ++ String.join (steps.map PathStep.text)

def boolText (b : Bool) : String :=
  if b then "true" else "false"

namespace Difference

def subject : Difference → String
  | family _ _ => "type IDs differ"
  | memberCount _ _ => "struct field counts differ"
  | memberName _ _ => "field names differ"
  | nullability _ _ => "nullability differs"
  | timeUnit _ _ => "timestamp units differ"
  | timeZone _ _ => "timestamp timezones differ"
  | text _ _ => "type string representations differ"

/-- The two sides as texts; a missing zone is the empty text. -/
def sides : Difference → String × String
  | family e a | memberName e a | text e a => (e, a)
  | memberCount e a => (Text.natText e, Text.natText a)
  | nullability e a => (boolText e, boolText a)
  | timeUnit e a => (e.symbol, a.symbol)
  | timeZone e a => (e.getD "", a.getD "")

def message (d : Difference) : String :=
  d.subject ++ " - expected: " ++ d.sides.1 ++ ", actual: " ++ d.sides.2

end Difference

namespace Mismatch

def under (step : PathStep) (m : Mismatch) : Mismatch :=
  { m with steps := step :: m.steps }

def path (m : Mismatch) (start : String) : String :=
  stepsPath start m.steps

def message (m : Mismatch) (start : String) : String :=
  m.path start ++ ": " ++ m.difference.message

end Mismatch

/-! ## Comparison -/

namespace Scalar

def difference? : Scalar → Scalar → Option Difference
  | timestamp u z, timestamp v w =>
    if u ≠ v then some (.timeUnit u v) else if z ≠ w then some (.timeZone z w) else none
  | e, a =>
    if e.family ≠ a.family then some (.family e.family a.family)
    else if e.text ≠ a.text then some (.text e.text a.text)
    else none

end Scalar

mutual

/-- The first difference of two types; none if they are the same or accepted by the rules. -/
def mismatch (rules : List CompatibilityRule) : DataType → DataType → Option Mismatch
  | .scalar e, .scalar a =>
    if accepts rules (.scalar e) (.scalar a) then none
    else (e.difference? a).map fun d => ⟨[], d⟩
  | .list e, .list a =>
    if accepts rules (.list e) (.list a) then none
    else (mismatch rules e a).map (Mismatch.under .element)
  | .struct es, .struct as =>
    if accepts rules (.struct es) (.struct as) then none
    else if es.length ≠ as.length then some ⟨[], .memberCount es.length as.length⟩
    else memberMismatch rules 0 es as
  | e, a =>
    if accepts rules e a then none else some ⟨[], .family e.family a.family⟩

/-- The first difference of the members of two records from a position on. -/
def memberMismatch (rules : List CompatibilityRule) (index : Nat) :
    List Field → List Field → Option Mismatch
  | ⟨name, type, nullable, _⟩ :: es, ⟨name', type', nullable', _⟩ :: as =>
    if name ≠ name' then some ⟨[.position index], .memberName name name'⟩
    else if nullable ≠ nullable' then some ⟨[.member index name], .nullability nullable nullable'⟩
    else
      match mismatch rules type type' with
      | some m => some (m.under (.member index name))
      | none => memberMismatch rules (index + 1) es as
  | _, _ => none

end

/-- Where the comparison of two types without a difference ends: at the element of each list that
no rule accepts as a whole, otherwise at the types themselves. -/
def agreementSteps (rules : List CompatibilityRule) : DataType → DataType → List PathStep
  | .list e, .list a =>
    if accepts rules (.list e) (.list a) then [] else .element :: agreementSteps rules e a
  | _, _ => []

/-- The result of comparing two types from a starting point. -/
structure Comparison where
  equal : Bool
  message : String
  path : String
  deriving DecidableEq

/-- Compares two types. A result without difference has no message. -/
def compareTypes (rules : List CompatibilityRule) (expected actual : DataType) (path : String) :
    Comparison :=
  match mismatch rules expected actual with
  | none => ⟨true, "", stepsPath path (agreementSteps rules expected actual)⟩
  | some m => ⟨false, m.message path, m.path path⟩

end Ingest
