import Ingest.Proofs.Schema.Comparison

/-!
# Compatibility by the rules of the library

The rules that the library brings along take two types for the same exactly if their normal forms
are the same (`compare_equal_iff_normal`). A normal form replaces every scalar type by the one that
stands for all that the rules identify, and drops the metadata of fields.
-/

namespace Ingest

/-! ## Normal forms -/

mutual

/-- The type with every scalar type in it replaced, and without the metadata of its fields. -/
def DataType.recast (scalar : Scalar → Scalar) : DataType → DataType
  | .scalar s => .scalar (scalar s)
  | .list element => .list (element.recast scalar)
  | .struct fields => .struct (recastFields scalar fields)

def recastFields (scalar : Scalar → Scalar) : List Field → List Field
  | [] => []
  | ⟨name, type, nullable, _⟩ :: rest =>
    .plain name (type.recast scalar) nullable :: recastFields scalar rest

end

/-- The rules that the library brings along. -/
inductive StandardRule where
  | intWidening
  | floatWidening
  | anyTimestamp
  deriving DecidableEq, Repr

namespace StandardRule

def rule : StandardRule → CompatibilityRule
  | intWidening => .intWidening
  | floatWidening => .floatWidening
  | anyTimestamp => .anyTimestamp

end StandardRule

/-- The scalar type that stands for all that some rules take for the same. -/
def Scalar.normal (rules : List StandardRule) : Scalar → Scalar
  | .int32 => if .intWidening ∈ rules then .int64 else .int32
  | .float32 => if .floatWidening ∈ rules then .float64 else .float32
  | .timestamp unit zone =>
    if .anyTimestamp ∈ rules then .timestamp .second none else .timestamp unit zone
  | s => s

def DataType.normal (rules : List StandardRule) (t : DataType) : DataType :=
  t.recast (Scalar.normal rules)

/-! ## What the rules accept -/

section Rules

variable {rules : List StandardRule} {e a : DataType} {s t : Scalar}

/-- Whether a rule takes two scalar types for the same. -/
def StandardRule.identifies : StandardRule → Scalar → Scalar → Bool
  | intWidening, .int32, .int64 | intWidening, .int64, .int32 => true
  | floatWidening, .float32, .float64 | floatWidening, .float64, .float32 => true
  | anyTimestamp, .timestamp _ _, .timestamp _ _ => true
  | _, _, _ => false

theorem StandardRule.check_scalar (r : StandardRule) (s t : Scalar) :
    r.rule.check (.scalar s) (.scalar t) =
      if r.identifies s t then .compatible else .notHandled := by
  cases r <;> cases s <;> cases t <;> rfl

/-- No rule says anything of types that are not both scalar. -/
theorem StandardRule.check_of_not_scalar (r : StandardRule)
    (h : (e.isScalar && a.isScalar) = false) : r.rule.check e a = .notHandled := by
  cases r <;> cases e <;> cases a <;>
    simp_all [StandardRule.rule, CompatibilityRule.intWidening, CompatibilityRule.floatWidening,
      CompatibilityRule.anyTimestamp, CompatibilityRule.either, DataType.isScalar]

theorem accepts_scalar : accepts (rules.map StandardRule.rule) (.scalar s) (.scalar t) =
    rules.any fun r => r.identifies s t := by
  induction rules with
  | nil => rfl
  | cons r rest ih =>
    rw [List.map_cons, accepts, StandardRule.check_scalar, List.any_cons]
    cases r.identifies s t
    · exact ih
    · rfl

theorem accepts_of_not_scalar (h : (e.isScalar && a.isScalar) = false) :
    accepts (rules.map StandardRule.rule) e a = false := by
  induction rules with
  | nil => rfl
  | cons r rest ih =>
    rw [List.map_cons, accepts, StandardRule.check_of_not_scalar r h]
    exact ih

/-- Scalar types have the same normal form if they are the same or one of the rules identifies
them. -/
theorem Scalar.normal_eq_iff : s.normal rules = t.normal rules ↔
    (rules.any fun r => r.identifies s t) = true ∨ s = t := by
  have hany : (rules.any fun r => r.identifies s t) = true ↔
      (.intWidening ∈ rules ∧ StandardRule.intWidening.identifies s t = true) ∨
      (.floatWidening ∈ rules ∧ StandardRule.floatWidening.identifies s t = true) ∨
      (.anyTimestamp ∈ rules ∧ StandardRule.anyTimestamp.identifies s t = true) := by
    rw [List.any_eq_true]
    constructor
    · rintro ⟨r, hr, h⟩
      cases r
      · exact .inl ⟨hr, h⟩
      · exact .inr (.inl ⟨hr, h⟩)
      · exact .inr (.inr ⟨hr, h⟩)
    · rintro (h | h | h) <;> exact ⟨_, h⟩
  rw [hany]
  -- Every pair of scalar types is the business of one rule or of none.
  cases s <;> cases t <;> simp [Scalar.normal, StandardRule.identifies] <;> split_ifs <;> simp_all

end Rules

/-! ## Comparing by the rules -/

section Comparing

variable {rules : List StandardRule} {e a : DataType}

/-- Elements may be related in another way that says the same of each. -/
theorem forall₂_iff_of_mem {α β : Type} {R S : α → β → Prop} {as : List α} {bs : List β}
    (h : ∀ x ∈ as, ∀ y, R x y ↔ S x y) : List.Forall₂ R as bs ↔ List.Forall₂ S as bs := by
  induction as generalizing bs with
  | nil => simp
  | cons x as ih =>
    rcases List.forall_mem_cons.1 h with ⟨hx, has⟩
    cases bs with
    | nil => simp
    | cons y bs => rw [List.forall₂_cons, List.forall₂_cons, hx y, ih has]

theorem recastFields_eq_map (scalar : Scalar → Scalar) (fields : List Field) :
    recastFields scalar fields =
      fields.map fun f => .plain f.name (f.type.recast scalar) f.nullable := by
  induction fields with
  | nil => rfl
  | cons f rest ih =>
    cases f
    rw [recastFields, ih, List.map_cons]

theorem recastFields_eq_iff {scalar : Scalar → Scalar} {es as : List Field} :
    recastFields scalar es = recastFields scalar as ↔
      List.Forall₂ (fun f g => f.name = g.name ∧ f.nullable = g.nullable ∧
        f.type.recast scalar = g.type.recast scalar) es as := by
  rw [recastFields_eq_map, recastFields_eq_map, ← List.forall₂_eq_eq_eq,
    List.forall₂_map_left_iff, List.forall₂_map_right_iff]
  have hfield : ∀ f g : Field,
      Field.plain f.name (f.type.recast scalar) f.nullable =
        .plain g.name (g.type.recast scalar) g.nullable ↔
      f.name = g.name ∧ f.nullable = g.nullable ∧ f.type.recast scalar = g.type.recast scalar := by
    intro f g
    simp [Field.plain, and_comm]
  simp only [hfield]

theorem not_acceptedBy_of_not_scalar (h : (e.isScalar && a.isScalar) = false) :
    ¬ AcceptedBy (rules.map StandardRule.rule) e a :=
  accepts_eq_false_iff.1 (accepts_of_not_scalar h)

/-- Types of different kinds differ whatever the rules, unless both are scalar. -/
theorem mismatch_ne_none_of_family_ne (h : (e.isScalar && a.isScalar) = false)
    (hfamily : e.family ≠ a.family) : mismatch (rules.map StandardRule.rule) e a ≠ none := by
  rw [mismatch_of_differ (not_acceptedBy_of_not_scalar h) (.of_family_ne hfamily)]
  nofun

/-- No difference is found exactly between types with the same normal form. -/
theorem mismatch_eq_none_iff_normal :
    mismatch (rules.map StandardRule.rule) e a = none ↔ e.normal rules = a.normal rules := by
  unfold DataType.normal
  induction e using DataType.induction generalizing a with
  | scalar s =>
    cases a with
    | scalar t =>
      have hsame : s.difference? t = none ↔ s = t := Scalar.difference?_eq_none_iff
      simp only [mismatch, accepts_scalar, DataType.recast, DataType.scalar.injEq,
        Scalar.normal_eq_iff]
      split_ifs with h <;> simp [h, hsame]
    | list a =>
      simp [DataType.recast, mismatch_ne_none_of_family_ne rfl (family_scalar_ne_list s a)]
    | struct as =>
      simp [DataType.recast, mismatch_ne_none_of_family_ne rfl (family_scalar_ne_struct s as)]
  | list e ih =>
    cases a with
    | scalar t =>
      simp [DataType.recast, mismatch_ne_none_of_family_ne rfl (family_scalar_ne_list t e).symm]
    | list a => simp [mismatch, accepts_of_not_scalar, DataType.isScalar, DataType.recast, ih]
    | struct as => simp [mismatch, accepts_of_not_scalar, DataType.isScalar, DataType.recast]
  | struct es ih =>
    cases a with
    | scalar t =>
      simp [DataType.recast, mismatch_ne_none_of_family_ne rfl (family_scalar_ne_struct t es).symm]
    | list a => simp [mismatch, accepts_of_not_scalar, DataType.isScalar, DataType.recast]
    | struct as =>
      rw [mismatch_struct_eq_none_iff (not_acceptedBy_of_not_scalar rfl), DataType.recast,
        DataType.recast, DataType.struct.injEq, recastFields_eq_iff]
      refine forall₂_iff_of_mem fun f hf g => ?_
      rw [Field.agrees_iff, ih f hf]

/-- Whatever the path, two types compare equal by some of the library's rules exactly if they have
the same normal form. So comparing equal is an equivalence of types, and without any rule only the
metadata of fields are left out of account. -/
theorem compare_equal_iff_normal (rules : List StandardRule) :
    (∀ e a path, (compareTypes (rules.map StandardRule.rule) e a path).equal = true ↔
      e.normal rules = a.normal rules) ∧
    (∀ path, Equivalence fun e a =>
      (compareTypes (rules.map StandardRule.rule) e a path).equal = true) ∧
    ∀ e a path, (compareTypes [] e a path).equal = true ↔ e.recast id = a.recast id := by
  have hnormal : ∀ (rules : List StandardRule) (e a : DataType) (path : String),
      (compareTypes (rules.map StandardRule.rule) e a path).equal = true ↔
        e.normal rules = a.normal rules := by
    intro rules e a path
    rw [compareTypes_equal_iff, mismatch_eq_none_iff_normal]
  refine ⟨hnormal rules, fun path => ?_, fun e a path => ?_⟩
  · simp only [hnormal]
    exact ⟨fun e => rfl, fun h => h.symm, fun h h' => h.trans h'⟩
  · have hid : Scalar.normal [] = id := by
      funext s
      cases s <;> simp [Scalar.normal]
    have hplain := hnormal [] e a path
    rwa [List.map_nil, DataType.normal, DataType.normal, hid] at hplain

end Comparing
end Ingest
