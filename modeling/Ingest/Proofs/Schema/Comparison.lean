import Ingest.Proofs.Schema.Shown
import Ingest.Schema.Basic
import Ingest.Schema.Compare
import Mathlib.Data.List.Forall2
import Mathlib.Tactic.SplitIfs

/-!
# The first difference of two types

`FirstDifference` says, without computing it, at which place two types differ first and how: on the
way there no pair is accepted by the rules, and in each record that is passed all members in front
agree. `Segment` and `Reason` say how the way and the difference read in a message. Main statement:
`compare_reports_first_difference`.
-/

namespace Ingest

/-! ## Rules -/

/-- The first rule that says anything of a pair says that it is compatible. -/
def AcceptedBy (rules : List CompatibilityRule) (expected actual : DataType) : Prop :=
  ∃ before rule after, rules = before ++ rule :: after ∧
    (∀ r ∈ before, r.check expected actual = .notHandled) ∧
      rule.check expected actual = .compatible

theorem accepts_iff {rules : List CompatibilityRule} {expected actual : DataType} :
    accepts rules expected actual = true ↔ AcceptedBy rules expected actual := by
  induction rules with
  | nil => simp [accepts, AcceptedBy]
  | cons first rest ih =>
    rw [accepts]
    cases hcheck : first.check expected actual with
    | compatible =>
      simp only [true_iff]
      exact ⟨[], first, rest, rfl, nofun, hcheck⟩
    | incompatible =>
      simp only [Bool.false_eq_true, false_iff]
      rintro ⟨before, rule, after, hrules, hbefore, hrule⟩
      rcases List.cons_eq_append_iff.1 hrules with ⟨rfl, hfirst⟩ | ⟨before, rfl, -⟩
      · cases hfirst
        cases hcheck.symm.trans hrule
      · cases hcheck.symm.trans (hbefore first List.mem_cons_self)
    | notHandled =>
      simp only [ih]
      constructor
      · rintro ⟨before, rule, after, rfl, hbefore, hrule⟩
        exact ⟨first :: before, rule, after, rfl, List.forall_mem_cons.2 ⟨hcheck, hbefore⟩, hrule⟩
      · rintro ⟨before, rule, after, hrules, hbefore, hrule⟩
        rcases List.cons_eq_append_iff.1 hrules with ⟨rfl, hfirst⟩ | ⟨before, rfl, rfl⟩
        · cases hfirst
          cases hcheck.symm.trans hrule
        · exact ⟨before, rule, after, rfl, (List.forall_mem_cons.1 hbefore).2, hrule⟩

theorem accepts_eq_false_iff {rules : List CompatibilityRule} {expected actual : DataType} :
    accepts rules expected actual = false ↔ ¬ AcceptedBy rules expected actual := by
  rw [← accepts_iff, Bool.not_eq_true]

/-! ## Differences of the types at one place -/

/-- What messages call a type by. -/
inductive TypeID : DataType → String → Prop
  | string : TypeID (.scalar .string) "STRING"
  | bool : TypeID (.scalar .bool) "BOOL"
  | int32 : TypeID (.scalar .int32) "INT32"
  | int64 : TypeID (.scalar .int64) "INT64"
  | float32 : TypeID (.scalar .float32) "FLOAT32"
  | float64 : TypeID (.scalar .float64) "FLOAT64"
  | date32 : TypeID (.scalar .date32) "DATE32"
  | timestamp {unit : TimeUnit} {zone : Option String} :
      TypeID (.scalar (.timestamp unit zone)) "TIMESTAMP"
  | binary : TypeID (.scalar .binary) "BINARY"
  | list {element : DataType} : TypeID (.list element) "LIST"
  | struct {fields : List Field} : TypeID (.struct fields) "STRUCT"

theorem typeID_iff {t : DataType} {id : String} : TypeID t id ↔ t.family = id := by
  constructor
  · intro h
    cases h <;> rfl
  · rintro rfl
    cases t with
    | scalar s => cases s <;> constructor
    | list element => exact .list
    | struct fields => exact .struct

/-- Two types differ in themselves: in what they are, in how many members they have, or in the unit
or else the zone of their times. -/
inductive Differ : DataType → DataType → Difference → Prop
  | family {e a : DataType} {s t : String} : TypeID e s → TypeID a t → s ≠ t →
      Differ e a (.family s t)
  | memberCount {es as : List Field} : es.length ≠ as.length →
      Differ (.struct es) (.struct as) (.memberCount es.length as.length)
  | timeUnit {u v : TimeUnit} {z w : Option String} : u ≠ v →
      Differ (.scalar (.timestamp u z)) (.scalar (.timestamp v w)) (.timeUnit u v)
  | timeZone {u : TimeUnit} {z w : Option String} : z ≠ w →
      Differ (.scalar (.timestamp u z)) (.scalar (.timestamp u w)) (.timeZone z w)

theorem Differ.of_family_ne {e a : DataType} (h : e.family ≠ a.family) :
    Differ e a (.family e.family a.family) :=
  .family (typeID_iff.2 rfl) (typeID_iff.2 rfl) h

namespace Scalar

theorem difference?_of_family_ne {s t : Scalar} (h : s.family ≠ t.family) :
    s.difference? t = some (.family s.family t.family) := by
  cases s <;> cases t <;> simp_all [difference?, family]

theorem difference?_eq_none_iff {s t : Scalar} : s.difference? t = none ↔ s = t := by
  cases s <;> cases t <;> simp [difference?, family, text]
  -- Only timestamps have parts.
  case timestamp.timestamp u z v w =>
    by_cases hunit : u = v <;> by_cases hzone : z = w <;> simp [hunit, hzone]

/-- Two scalar types never differ in their texts alone. -/
theorem difference?_eq_some_iff {s t : Scalar} {d : Difference} :
    s.difference? t = some d ↔ Differ (.scalar s) (.scalar t) d := by
  constructor
  · intro h
    by_cases hfamily : s.family = t.family
    · cases s <;> cases t <;> simp [difference?, family] at h hfamily
      case timestamp.timestamp u z v w =>
        split_ifs at h with hunit hzone
        · cases hunit
          cases h
          exact .timeZone hzone
        · cases h
          exact .timeUnit hunit
    · cases (difference?_of_family_ne hfamily).symm.trans h
      exact .of_family_ne hfamily
  · intro h
    cases h with
    | family hs ht hne =>
      cases typeID_iff.1 hs
      cases typeID_iff.1 ht
      exact difference?_of_family_ne hne
    | timeUnit hunit => simp [difference?, hunit]
    | timeZone hzone => simp [difference?, hzone]

end Scalar

/-! ## The first difference -/

theorem compareTypes_equal_iff {rules : List CompatibilityRule} {e a : DataType} {path : String} :
    (compareTypes rules e a path).equal = true ↔ mismatch rules e a = none := by
  unfold compareTypes
  cases mismatch rules e a <;> simp

/-- Two members have the same name, are both nullable or both not, and their types compare
equal. -/
def Field.Agrees (rules : List CompatibilityRule) (f g : Field) : Prop :=
  f.name = g.name ∧ f.nullable = g.nullable ∧
    ∀ path, (compareTypes rules f.type g.type path).equal = true

/-- The members at one position of two records, where all members in front agree. -/
structure AgreeUpTo (rules : List CompatibilityRule) (es as : List Field) (i : Nat) (f g : Field) :
    Prop where
  count : es.length = as.length
  expected : es[i]? = some f
  actual : as[i]? = some g
  before : ∀ j < i, ∀ f' g', es[j]? = some f' → as[j]? = some g' → f'.Agrees rules g'

/-- The way to the first difference of two types, and the difference there. -/
inductive FirstDifference (rules : List CompatibilityRule) :
    DataType → DataType → List PathStep → Difference → Prop
  | here {e a : DataType} {d : Difference} :
      ¬ AcceptedBy rules e a → Differ e a d → FirstDifference rules e a [] d
  | element {e a : DataType} {steps : List PathStep} {d : Difference} :
      ¬ AcceptedBy rules (.list e) (.list a) → FirstDifference rules e a steps d →
        FirstDifference rules (.list e) (.list a) (.element :: steps) d
  | memberName {es as : List Field} {i : Nat} {f g : Field} :
      ¬ AcceptedBy rules (.struct es) (.struct as) → AgreeUpTo rules es as i f g →
      f.name ≠ g.name →
        FirstDifference rules (.struct es) (.struct as) [.position i] (.memberName f.name g.name)
  | nullability {es as : List Field} {i : Nat} {f g : Field} :
      ¬ AcceptedBy rules (.struct es) (.struct as) → AgreeUpTo rules es as i f g →
      f.name = g.name → f.nullable ≠ g.nullable →
        FirstDifference rules (.struct es) (.struct as) [.member i f.name]
          (.nullability f.nullable g.nullable)
  | member {es as : List Field} {i : Nat} {f g : Field} {steps : List PathStep}
      {d : Difference} :
      ¬ AcceptedBy rules (.struct es) (.struct as) → AgreeUpTo rules es as i f g →
      f.name = g.name → f.nullable = g.nullable → FirstDifference rules f.type g.type steps d →
        FirstDifference rules (.struct es) (.struct as) (.member i f.name :: steps) d

/-! ## Members -/

section Members

variable {rules : List CompatibilityRule} {f g : Field} {es as : List Field} {k : Nat}
  {m : Mismatch}

/-- What is found of two members at a position. -/
inductive Field.MismatchAt (rules : List CompatibilityRule) (i : Nat) (f g : Field) :
    Mismatch → Prop
  | name : f.name ≠ g.name → f.MismatchAt rules i g ⟨[.position i], .memberName f.name g.name⟩
  | nullability : f.name = g.name → f.nullable ≠ g.nullable →
      f.MismatchAt rules i g ⟨[.member i f.name], .nullability f.nullable g.nullable⟩
  | type {m : Mismatch} : f.name = g.name → f.nullable = g.nullable →
      mismatch rules f.type g.type = some m → f.MismatchAt rules i g (m.under (.member i f.name))

theorem Field.agrees_iff : f.Agrees rules g ↔
    f.name = g.name ∧ f.nullable = g.nullable ∧ mismatch rules f.type g.type = none := by
  simp [Field.Agrees, compareTypes_equal_iff]

theorem memberMismatch_cons_of_agrees (h : f.Agrees rules g) :
    memberMismatch rules k (f :: es) (g :: as) = memberMismatch rules (k + 1) es as := by
  rcases Field.agrees_iff.1 h with ⟨hname, hnullable, htype⟩
  cases f
  cases g
  simp_all [memberMismatch]

theorem memberMismatch_cons_of_mismatchAt (h : f.MismatchAt rules k g m) :
    memberMismatch rules k (f :: es) (g :: as) = some m := by
  cases f
  cases g
  cases h <;> simp_all [memberMismatch]

theorem Field.agrees_or_mismatchAt (rules : List CompatibilityRule) (i : Nat) (f g : Field) :
    f.Agrees rules g ∨ ∃ m, f.MismatchAt rules i g m := by
  rw [Field.agrees_iff]
  by_cases hname : f.name = g.name
  · by_cases hnullable : f.nullable = g.nullable
    · cases htype : mismatch rules f.type g.type with
      | none => exact .inl ⟨hname, hnullable, rfl⟩
      | some m => exact .inr ⟨_, .type hname hnullable htype⟩
    · exact .inr ⟨_, .nullability hname hnullable⟩
  · exact .inr ⟨_, .name hname⟩

theorem AgreeUpTo.first (hcount : es.length = as.length) :
    AgreeUpTo rules (f :: es) (g :: as) 0 f g where
  count := by simp [hcount]
  expected := rfl
  actual := rfl
  before _ hj := absurd hj (Nat.not_lt_zero _)

theorem agreeUpTo_cons_iff {f' g' : Field} {i : Nat} :
    AgreeUpTo rules (f :: es) (g :: as) (i + 1) f' g' ↔
      f.Agrees rules g ∧ AgreeUpTo rules es as i f' g' := by
  constructor
  · rintro ⟨hcount, hexpected, hactual, hbefore⟩
    refine ⟨hbefore 0 i.succ_pos f g rfl rfl, by simpa using hcount, hexpected, hactual, ?_⟩
    intro j hj
    exact hbefore (j + 1) (Nat.succ_lt_succ hj)
  · rintro ⟨hagrees, hcount, hexpected, hactual, hbefore⟩
    refine ⟨by simp [hcount], hexpected, hactual, ?_⟩
    rintro (_ | j) hj f₀ g₀ hf hg
    · cases hf
      cases hg
      exact hagrees
    · exact hbefore j (Nat.lt_of_succ_lt_succ hj) f₀ g₀ hf hg

/-- What the comparison of members finds lies at the first position where they do not agree. -/
theorem mismatchAt_of_memberMismatch (hcount : es.length = as.length)
    (h : memberMismatch rules k es as = some m) :
    ∃ i f g, AgreeUpTo rules es as i f g ∧ f.MismatchAt rules (k + i) g m := by
  induction es generalizing as k with
  | nil => simp [memberMismatch] at h
  | cons f es ih =>
    cases as with
    | nil => cases hcount
    | cons g as =>
      have hrest : es.length = as.length := by simpa using hcount
      rcases Field.agrees_or_mismatchAt rules k f g with hagrees | ⟨m', hm⟩
      · rw [memberMismatch_cons_of_agrees hagrees] at h
        rcases ih hrest h with ⟨i, f', g', hfront, hm⟩
        rw [Nat.add_right_comm] at hm
        exact ⟨i + 1, f', g', agreeUpTo_cons_iff.2 ⟨hagrees, hfront⟩, hm⟩
      · cases (memberMismatch_cons_of_mismatchAt hm).symm.trans h
        exact ⟨0, f, g, .first hrest, hm⟩

theorem memberMismatch_of_mismatchAt {i : Nat} (hfront : AgreeUpTo rules es as i f g)
    (h : f.MismatchAt rules (k + i) g m) : memberMismatch rules k es as = some m := by
  induction i generalizing es as k with
  | zero =>
    rcases es with _ | ⟨f', es⟩
    · cases hfront.expected
    rcases as with _ | ⟨g', as⟩
    · cases hfront.actual
    cases hfront.expected
    cases hfront.actual
    exact memberMismatch_cons_of_mismatchAt h
  | succ i ih =>
    rcases es with _ | ⟨f', es⟩
    · cases hfront.expected
    rcases as with _ | ⟨g', as⟩
    · cases hfront.actual
    rcases agreeUpTo_cons_iff.1 hfront with ⟨hagrees, hfront⟩
    rw [memberMismatch_cons_of_agrees hagrees]
    rw [← Nat.add_assoc, Nat.add_right_comm] at h
    exact ih hfront h

/-- The comparison of members finds nothing exactly if all of them agree. -/
theorem memberMismatch_eq_none_iff (hcount : es.length = as.length) :
    memberMismatch rules k es as = none ↔ List.Forall₂ (Field.Agrees rules) es as := by
  induction es generalizing as k with
  | nil =>
    cases as with
    | nil => simp [memberMismatch]
    | cons g as => cases hcount
  | cons f es ih =>
    cases as with
    | nil => cases hcount
    | cons g as =>
      have hrest : es.length = as.length := by simpa using hcount
      rw [List.forall₂_cons]
      constructor
      · intro h
        rcases Field.agrees_or_mismatchAt rules k f g with hagrees | ⟨m, hm⟩
        · rw [memberMismatch_cons_of_agrees hagrees] at h
          exact ⟨hagrees, (ih hrest).1 h⟩
        · cases (memberMismatch_cons_of_mismatchAt hm).symm.trans h
      · rintro ⟨hagrees, hall⟩
        rw [memberMismatch_cons_of_agrees hagrees]
        exact (ih hrest).2 hall

end Members

/-! ## Types -/

section Types

variable {rules : List CompatibilityRule} {e a : DataType}

theorem mismatch_of_accepted (h : AcceptedBy rules e a) : mismatch rules e a = none := by
  have haccepts := accepts_iff.2 h
  cases e <;> cases a <;> simp [mismatch, haccepts]

/-- What the comparison finds at the types themselves. -/
theorem mismatch_of_differ (hrules : ¬ AcceptedBy rules e a) {d : Difference} (h : Differ e a d) :
    mismatch rules e a = some ⟨[], d⟩ := by
  have haccepts := accepts_eq_false_iff.2 hrules
  cases h with
  | family he ha hne =>
    cases typeID_iff.1 he
    cases typeID_iff.1 ha
    cases e <;> cases a
    case scalar.scalar s t =>
      simp [mismatch, haccepts, Scalar.difference?_of_family_ne hne, DataType.family]
    all_goals simp_all [mismatch, DataType.family]
  | memberCount hcount => simp [mismatch, haccepts, hcount]
  | timeUnit hunit =>
    simp [mismatch, haccepts, Scalar.difference?_eq_some_iff.2 (.timeUnit hunit)]
  | timeZone hzone =>
    simp [mismatch, haccepts, Scalar.difference?_eq_some_iff.2 (.timeZone hzone)]

theorem mismatch_struct {es as : List Field} (hrules : ¬ AcceptedBy rules (.struct es) (.struct as))
    (hcount : es.length = as.length) :
    mismatch rules (.struct es) (.struct as) = memberMismatch rules 0 es as := by
  simp [mismatch, accepts_eq_false_iff.2 hrules, hcount]

theorem mismatch_struct_eq_some_iff {es as : List Field} {m : Mismatch}
    (hrules : ¬ AcceptedBy rules (.struct es) (.struct as)) (hcount : es.length = as.length) :
    mismatch rules (.struct es) (.struct as) = some m ↔
      ∃ i f g, AgreeUpTo rules es as i f g ∧ f.MismatchAt rules i g m := by
  rw [mismatch_struct hrules hcount]
  constructor
  · intro h
    rcases mismatchAt_of_memberMismatch hcount h with ⟨i, f, g, hfront, hm⟩
    rw [Nat.zero_add] at hm
    exact ⟨i, f, g, hfront, hm⟩
  · rintro ⟨i, f, g, hfront, hm⟩
    rw [← Nat.zero_add i] at hm
    exact memberMismatch_of_mismatchAt hfront hm

/-- Two records that no rule accepts are the same if they agree member by member. -/
theorem mismatch_struct_eq_none_iff {es as : List Field}
    (hrules : ¬ AcceptedBy rules (.struct es) (.struct as)) :
    mismatch rules (.struct es) (.struct as) = none ↔
      List.Forall₂ (Field.Agrees rules) es as := by
  by_cases hcount : es.length = as.length
  · rw [mismatch_struct hrules hcount, memberMismatch_eq_none_iff hcount]
  · have hsome := mismatch_of_differ hrules (.memberCount hcount)
    constructor
    · intro h
      cases hsome.symm.trans h
    · intro h
      exact absurd h.length_eq hcount

theorem mismatch_of_firstDifference {steps : List PathStep} {d : Difference}
    (h : FirstDifference rules e a steps d) : mismatch rules e a = some ⟨steps, d⟩ := by
  induction h with
  | here hrules hd => exact mismatch_of_differ hrules hd
  | element hrules _ ih =>
    simp [mismatch, accepts_eq_false_iff.2 hrules, ih, Mismatch.under]
  | memberName hrules hfront hname =>
    exact (mismatch_struct_eq_some_iff hrules hfront.count).2 ⟨_, _, _, hfront, .name hname⟩
  | nullability hrules hfront hname hnullable =>
    exact (mismatch_struct_eq_some_iff hrules hfront.count).2
      ⟨_, _, _, hfront, .nullability hname hnullable⟩
  | member hrules hfront hname hnullable _ ih =>
    exact (mismatch_struct_eq_some_iff hrules hfront.count).2
      ⟨_, _, _, hfront, .type hname hnullable ih⟩

theorem not_accepted_of_mismatch {m : Mismatch} (h : mismatch rules e a = some m) :
    ¬ AcceptedBy rules e a := by
  intro haccepted
  cases (mismatch_of_accepted haccepted).symm.trans h

theorem family_scalar_ne_list (s : Scalar) (t : DataType) :
    (DataType.scalar s).family ≠ (DataType.list t).family := by
  cases s <;> simp [DataType.family, Scalar.family]

theorem family_scalar_ne_struct (s : Scalar) (fields : List Field) :
    (DataType.scalar s).family ≠ (DataType.struct fields).family := by
  cases s <;> simp [DataType.family, Scalar.family]

/-- Types of different kinds differ in that, at once. -/
theorem firstDifference_of_family_ne (h : e.family ≠ a.family) {m : Mismatch}
    (hm : mismatch rules e a = some m) : FirstDifference rules e a m.steps m.difference := by
  have hrules := not_accepted_of_mismatch hm
  cases (mismatch_of_differ hrules (.of_family_ne h)).symm.trans hm
  exact .here hrules (.of_family_ne h)

/-- The comparison finds the first difference. -/
theorem firstDifference_of_mismatch {m : Mismatch} (h : mismatch rules e a = some m) :
    FirstDifference rules e a m.steps m.difference := by
  -- Types of different kinds differ at once, so that only pairs of one kind lead further down.
  induction e using DataType.induction generalizing a m with
  | scalar s =>
    cases a with
    | scalar t =>
      have hrules := not_accepted_of_mismatch h
      simp only [mismatch, accepts_eq_false_iff.2 hrules, Bool.false_eq_true, if_false] at h
      rcases Option.map_eq_some_iff.1 h with ⟨d, hd, rfl⟩
      exact .here hrules (Scalar.difference?_eq_some_iff.1 hd)
    | list a => exact firstDifference_of_family_ne (family_scalar_ne_list s a) h
    | struct as => exact firstDifference_of_family_ne (family_scalar_ne_struct s as) h
  | list e ih =>
    cases a with
    | scalar t => exact firstDifference_of_family_ne (family_scalar_ne_list t e).symm h
    | list a =>
      have hrules := not_accepted_of_mismatch h
      simp only [mismatch, accepts_eq_false_iff.2 hrules, Bool.false_eq_true, if_false] at h
      rcases Option.map_eq_some_iff.1 h with ⟨m', hm', rfl⟩
      exact .element hrules (ih hm')
    | struct as => exact firstDifference_of_family_ne (by simp [DataType.family]) h
  | struct es ih =>
    cases a with
    | scalar t => exact firstDifference_of_family_ne (family_scalar_ne_struct t es).symm h
    | list a => exact firstDifference_of_family_ne (by simp [DataType.family]) h
    | struct as =>
      have hrules := not_accepted_of_mismatch h
      by_cases hcount : es.length = as.length
      · rcases (mismatch_struct_eq_some_iff hrules hcount).1 h with ⟨i, f, g, hfront, hm⟩
        cases hm with
        | name hname => exact .memberName hrules hfront hname
        | nullability hname hnullable => exact .nullability hrules hfront hname hnullable
        | type hname hnullable htype =>
          have hmem : f ∈ es := List.mem_of_getElem? hfront.expected
          exact .member hrules hfront hname hnullable (ih f hmem htype)
      · have hdiffer : Differ (.struct es) (.struct as) _ := .memberCount hcount
        cases (mismatch_of_differ hrules hdiffer).symm.trans h
        exact .here hrules hdiffer

theorem mismatch_eq_some_iff {m : Mismatch} :
    mismatch rules e a = some m ↔ FirstDifference rules e a m.steps m.difference :=
  ⟨firstDifference_of_mismatch, mismatch_of_firstDifference⟩

end Types

/-! ## What a comparison reports -/

/-- What a step adds to a path. -/
inductive Segment : PathStep → String → Prop
  | element : Segment .element "[LIST_ELEMENT]"
  | position (i : Nat) : Segment (.position i) (".STRUCT[" ++ toString i ++ "]")
  | member (i : Nat) (name : String) :
      Segment (.member i name) (".STRUCT[" ++ toString i ++ "]." ++ name)

/-- The reason that a message gives for a difference, with what was expected and what there is. A
missing zone is shown as nothing. -/
inductive Reason : Difference → String → Prop
  | family (e a : String) :
      Reason (.family e a) ("type IDs differ - expected: " ++ e ++ ", actual: " ++ a)
  | memberCount (e a : Nat) :
      Reason (.memberCount e a)
        ("struct field counts differ - expected: " ++ toString e ++ ", actual: " ++ toString a)
  | memberName (e a : String) :
      Reason (.memberName e a) ("field names differ - expected: " ++ e ++ ", actual: " ++ a)
  | nullability (e a : Bool) :
      Reason (.nullability e a)
        ("nullability differs - expected: " ++ toString e ++ ", actual: " ++ toString a)
  | timeUnit {e a : TimeUnit} {s t : String} : UnitText e s → UnitText a t →
      Reason (.timeUnit e a) ("timestamp units differ - expected: " ++ s ++ ", actual: " ++ t)
  | timeZone (e a : Option String) :
      Reason (.timeZone e a)
        ("timestamp timezones differ - expected: " ++ e.getD "" ++ ", actual: " ++ a.getD "")

theorem segment_text (step : PathStep) : Segment step step.text := by
  cases step with
  | element => exact .element
  | position i =>
    rw [PathStep.text, Text.natText_eq_toString]
    exact .position i
  | member i name =>
    rw [PathStep.text, Text.natText_eq_toString]
    exact .member i name

theorem boolText_eq_toString (b : Bool) : boolText b = toString b := by
  cases b <;> rfl

/-- Every difference has its reason, apart from one in the texts alone. -/
theorem reason_message {d : Difference} (h : ∀ s t, d ≠ .text s t) : Reason d d.message := by
  cases d with
  | family e a => exact .family e a
  | memberCount e a =>
    rw [Difference.message, Difference.sides, Text.natText_eq_toString, Text.natText_eq_toString]
    exact .memberCount e a
  | memberName e a => exact .memberName e a
  | nullability e a =>
    rw [Difference.message, Difference.sides, boolText_eq_toString, boolText_eq_toString]
    exact .nullability e a
  | timeUnit e a => exact .timeUnit (unitText_symbol e) (unitText_symbol a)
  | timeZone e a => exact .timeZone e a
  | text e a => exact absurd rfl (h e a)

/-- No reason is that two types are written differently. -/
theorem Reason.ne_texts {d : Difference} {reason : String} (h : Reason d reason) (rest : String) :
    reason ≠ "type string representations differ" ++ rest := by
  intro heq
  have hchars := congrArg String.toList heq
  cases h <;> simp at hchars

section Reports

variable {rules : List CompatibilityRule} {e a : DataType} {steps : List PathStep}
  {d : Difference}

theorem FirstDifference.ne_text (h : FirstDifference rules e a steps d) (s t : String) :
    d ≠ .text s t := by
  induction h with
  | here _ hd => cases hd <;> nofun
  | element _ _ ih => exact ih
  | memberName => nofun
  | nullability => nofun
  | member _ _ _ _ _ ih => exact ih

theorem position_not_mem_cons {step : PathStep} {i : Nat} (hstep : step ≠ .position i)
    (h : .position i ∉ steps.dropLast) : .position i ∉ (step :: steps).dropLast := by
  cases steps with
  | nil => simp
  | cons next steps => simpa [hstep.symm] using h

/-- Only the last step can lead to a position and not to a type. -/
theorem FirstDifference.position_not_mem (h : FirstDifference rules e a steps d) (i : Nat) :
    .position i ∉ steps.dropLast := by
  induction h with
  | here => simp
  | memberName => simp
  | nullability => simp
  | element _ _ ih => exact position_not_mem_cons nofun ih
  | member _ _ _ _ _ ih => exact position_not_mem_cons nofun ih

/-- A comparison that fails reports the first difference of the types, and there is no other one: its
path leads there, segment by segment, and its message is the path with the reason. -/
theorem compare_reports_first_difference (rules : List CompatibilityRule) (e a : DataType)
    (path : String) (h : (compareTypes rules e a path).equal = false) :
    ∃ steps d segments reason, FirstDifference rules e a steps d ∧
      (∀ steps' d', FirstDifference rules e a steps' d' → steps' = steps ∧ d' = d) ∧
      (∀ i, .position i ∉ steps.dropLast) ∧
      List.Forall₂ Segment steps segments ∧ Reason d reason ∧
      (compareTypes rules e a path).path = path ++ String.join segments ∧
      (compareTypes rules e a path).message =
        path ++ String.join segments ++ ": " ++ reason ∧
      ∀ rest, reason ≠ "type string representations differ" ++ rest := by
  have hsome : ∃ m, mismatch rules e a = some m := by
    refine Option.ne_none_iff_exists'.1 fun hnone => ?_
    rw [compareTypes_equal_iff.2 hnone] at h
    cases h
  rcases hsome with ⟨m, hm⟩
  have hfirst := mismatch_eq_some_iff.1 hm
  have hreason : Reason m.difference m.difference.message := reason_message hfirst.ne_text
  have hsegments : List.Forall₂ Segment m.steps (m.steps.map PathStep.text) :=
    List.forall₂_map_right_iff.2 (List.forall₂_same.2 fun step _ => segment_text step)
  have hresult : compareTypes rules e a path = ⟨false, m.message path, m.path path⟩ := by
    rw [compareTypes, hm]
  refine ⟨m.steps, m.difference, m.steps.map PathStep.text, m.difference.message, hfirst, ?_,
    hfirst.position_not_mem, hsegments, hreason, ?_, ?_, hreason.ne_texts⟩
  · intro steps d hother
    cases (mismatch_of_firstDifference hother).symm.trans hm
    exact ⟨rfl, rfl⟩
  · rw [hresult]
    rfl
  · rw [hresult]
    rfl

/-- The type of lists of visits, with the page as a number and the time in a unit. -/
def visitsOf (page : Scalar) (unit : TimeUnit) : DataType :=
  .list (.struct [.plain "page" (.scalar page) false,
    .plain "at" (.scalar (.timestamp unit none)) true])

/-- The pages may have different widths, so that the units of the times are reported. -/
theorem compare_reports_first_difference_visits :
    let result := compareTypes [.intWidening] (visitsOf .int32 .second)
      (visitsOf .int64 .millisecond) "visits"
    result.equal = false ∧
      FirstDifference [.intWidening] (visitsOf .int32 .second) (visitsOf .int64 .millisecond)
        [.element, .member 1 "at"] (.timeUnit .second .millisecond) ∧
      result.path = "visits[LIST_ELEMENT].STRUCT[1].at" ∧
      result.message = "visits[LIST_ELEMENT].STRUCT[1].at: " ++
        "timestamp units differ - expected: s, actual: ms" := by
  have hm : mismatch [.intWidening] (visitsOf .int32 .second) (visitsOf .int64 .millisecond) =
      some ⟨[.element, .member 1 "at"], .timeUnit .second .millisecond⟩ := by decide
  have h : (compareTypes [.intWidening] (visitsOf .int32 .second)
      (visitsOf .int64 .millisecond) "visits").equal = false := by
    rw [compareTypes, hm]
  rcases compare_reports_first_difference _ _ _ "visits" h with
    ⟨steps, d, segments, reason, hfirst, hunique, -, hsegments, hreason, hpath, hmessage, -⟩
  rcases hunique _ _ (mismatch_eq_some_iff.1 hm) with ⟨rfl, rfl⟩
  rcases hsegments with _ | ⟨⟨⟩, _ | ⟨⟨⟩, ⟨⟩⟩⟩
  rcases hreason with _ | _ | _ | _ | ⟨⟨⟩, ⟨⟩⟩
  exact ⟨h, hfirst, hpath.trans rfl, hmessage.trans rfl⟩

end Reports
end Ingest
