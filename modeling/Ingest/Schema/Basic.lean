import Ingest.Failure
import Ingest.Schema.DataType

/-!
# Schemas

A schema is a list of fields with distinct names. `Schema.ofFields` builds one and refuses the
first name that occurs again; `ofFields_isOk_iff` says that nothing else is refused.
-/

namespace Ingest

/-- A type with nullability and metadata: a field without its name. -/
structure NeutralType where
  type : DataType
  nullable : Bool := false
  metadata : Metadata := ∅
  deriving DecidableEq

namespace Field

def neutral (f : Field) : NeutralType :=
  ⟨f.type, f.nullable, f.metadata⟩

def plain (name : String) (type : DataType) (nullable : Bool) : Field :=
  ⟨name, type, nullable, ∅⟩

end Field

def NeutralType.named (t : NeutralType) (name : String) : Field :=
  ⟨name, t.type, t.nullable, t.metadata⟩

/-- The first text of a list that stands in it, or among the earlier ones, before. -/
def firstRepeat (earlier : List String) : List String → Option String
  | [] => none
  | name :: rest =>
    if name ∈ earlier then some name else firstRepeat (name :: earlier) rest

theorem firstRepeat_eq_none_iff {earlier names : List String} :
    firstRepeat earlier names = none ↔ names.Nodup ∧ ∀ n ∈ names, n ∉ earlier := by
  induction names generalizing earlier with
  | nil => simp [firstRepeat]
  | cons name rest ih =>
    by_cases h : name ∈ earlier
    · simp [firstRepeat, h]
    · simp only [firstRepeat, if_neg h, ih, List.nodup_cons, List.mem_cons, not_or]
      constructor
      · rintro ⟨hnd, hall⟩
        refine ⟨⟨fun hm => (hall _ hm).1 rfl, hnd⟩, ?_⟩
        rintro n (rfl | hn)
        · exact h
        · exact (hall n hn).2
      · rintro ⟨⟨hm, hnd⟩, hall⟩
        exact ⟨hnd, fun n hn => ⟨fun e => hm (e ▸ hn), hall n (.inr hn)⟩⟩

/-- Fields with distinct names. -/
structure Schema where
  fields : List Field
  nodup : (fields.map (·.name)).Nodup
  deriving DecidableEq

namespace Schema

def empty : Schema := ⟨[], List.nodup_nil⟩

instance : Inhabited Schema := ⟨empty⟩

/-- The schema of a list of fields, unless a name occurs again. -/
def ofFields (fields : List Field) : Outcome Schema :=
  match h : firstRepeat [] (fields.map (·.name)) with
  | some name => .error (.duplicateField name)
  | none => .ok ⟨fields, (firstRepeat_eq_none_iff.1 h).1⟩

def field? (s : Schema) (name : String) : Option Field :=
  s.fields.find? fun f => f.name == name

def names (s : Schema) : List String :=
  s.fields.map (·.name)

theorem ofFields_eq_ok_iff {fields : List Field} {s : Schema} :
    ofFields fields = .ok s ↔ s.fields = fields := by
  unfold ofFields
  split
  · rename_i name h
    constructor
    · intro e
      cases e
    · intro e
      have hn : firstRepeat [] (fields.map (·.name)) = none :=
        firstRepeat_eq_none_iff.2 ⟨e ▸ s.nodup, by simp⟩
      rw [hn] at h
      cases h
  · constructor
    · rintro ⟨⟩
      rfl
    · rintro rfl
      rfl

end Schema
end Ingest
