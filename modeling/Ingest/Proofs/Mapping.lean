import Ingest.Mapping

/-!
# Rules that refer to their mapper

The composite rules of a mapper ask the whole mapper for the parts of a type, by a handle.
`MappingRule.unrolled` is such a mapper with handles that lead only so many levels deep. If every
rule asks for nothing but smaller types, a depth beyond the size of a type makes no difference, and
what the rules amount to can be stated without handles (`MappingRule.unrolled_eq`).
-/

namespace Ingest

/-- A scalar type other than the binary one. -/
def DataType.Plain (t : DataType) : Prop :=
  ∃ s, t = .scalar s ∧ s ≠ .binary

/-- The same field without metadata. -/
def Field.bared (f : Field) : Field :=
  .plain f.name f.type f.nullable

namespace MappingRule

variable {α β W : Type} {missing : Failure} {a : α} {rule : α → Outcome (Option β)}

/-! ## The first rule that applies -/

theorem firstApplicable_of_none (h : rule a = .ok none) (rest : List (α → Outcome (Option β))) :
    firstApplicable missing a (rule :: rest) = firstApplicable missing a rest := by
  rw [firstApplicable, h]
  rfl

/-- A rule that applies decides, also by failing. -/
theorem firstApplicable_of_some {o : Outcome β} (h : rule a = o.map some)
    (rest : List (α → Outcome (Option β))) :
    firstApplicable missing a (rule :: rest) = o := by
  rw [firstApplicable, h]
  cases o <;> rfl

/-! ## Handles of limited depth -/

/-- The rules of a mapper for one direction, given the mapper to which they refer. -/
abbrev Rules (W : Type) :=
  (NeutralType → Outcome W) → List (NeutralType → Outcome (Option W))

/-- A mapper whose handles lead only so many levels deep; the last one leads to no mapper. -/
def unrolled (name : String) (rules : Rules W) : Nat → NeutralType → Outcome W
  | 0 => (TypeMapper.Handle.resolve none).toWarehouse
  | depth + 1 => fun t =>
    firstApplicable (.unsupportedMapping t.type.text name) t (rules (unrolled name rules depth))

/-- If the rules amount to `f` wherever smaller types are mapped by `f`, the mapper is `f`, as soon
as the handles lead deeper than a type is large. -/
theorem unrolled_eq {name : String} {rules : Rules W} {f : NeutralType → Outcome W}
    (size : NeutralType → Nat)
    (hrules : ∀ (self : NeutralType → Outcome W) (t : NeutralType),
      (∀ u, size u < size t → self u = f u) →
        firstApplicable (.unsupportedMapping t.type.text name) t (rules self) = f t)
    {depth : Nat} {t : NeutralType} (h : size t < depth) : unrolled name rules depth t = f t := by
  -- By induction on the depth: one level takes one from the size of what is asked for.
  induction depth generalizing t with
  | zero => exact absurd h (Nat.not_lt_zero _)
  | succ depth ih =>
    apply hrules
    intro u hu
    exact ih (Nat.lt_of_lt_of_le hu (Nat.le_of_lt_succ h))

/-! ## The first part that is refused -/

/-- Either all members of a list have a property, or there is a first one that does not. -/
theorem all_or_first {α : Type} (P : α → Prop) (as : List α) :
    (∀ a ∈ as, P a) ∨
      ∃ before a after, as = before ++ a :: after ∧ (∀ b ∈ before, P b) ∧ ¬ P a := by
  induction as with
  | nil => exact .inl nofun
  | cons a rest ih =>
    by_cases ha : P a
    · rcases ih with hall | ⟨before, b, after, rfl, hbefore, hb⟩
      · exact .inl (List.forall_mem_cons.2 ⟨ha, hall⟩)
      · exact .inr ⟨a :: before, b, after, rfl, List.forall_mem_cons.2 ⟨ha, hbefore⟩, hb⟩
    · exact .inr ⟨[], a, rest, rfl, nofun, ha⟩

/-- If a type is either accepted or refused for a part, the result of a mapper tells which. -/
theorem accepts_and_refuses {name : String} {accepted : Prop} {offends : String → Prop}
    {o : Outcome W} (haccepted : accepted → ∃ w, o = .ok w)
    (hoffends : ∀ part, offends part → o = .error (.unsupportedMapping part name))
    (htotal : accepted ∨ ∃ part, offends part) :
    ((∃ w, o = .ok w) ↔ accepted) ∧
      ∀ e, o = .error e ↔ ∃ part, offends part ∧ e = .unsupportedMapping part name := by
  refine ⟨⟨?_, haccepted⟩, ?_⟩
  · rintro ⟨w, hw⟩
    rcases htotal with ha | ⟨part, hpart⟩
    · exact ha
    · cases hw.symm.trans (hoffends part hpart)
  · intro e
    constructor
    · intro he
      rcases htotal with ha | ⟨part, hpart⟩
      · rcases haccepted ha with ⟨w, hw⟩
        cases he.symm.trans hw
      · cases he.symm.trans (hoffends part hpart)
        exact ⟨part, hpart, rfl⟩
    · rintro ⟨part, hpart, rfl⟩
      exact hoffends part hpart

end MappingRule
end Ingest
