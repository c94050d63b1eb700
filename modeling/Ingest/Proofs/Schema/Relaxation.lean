import Ingest.Proofs.Schema.Comparison

/-!
# Rules only relax the comparison

What compares equal without rules compares equal with any (`rules_only_relax`). Whatever the rules
say of a pair of types, the structural comparison decides the pair if no rule accepts it.
-/

namespace Ingest

section Relaxation

variable {rules rules' : List CompatibilityRule} {e a : DataType}

theorem not_acceptedBy_nil : ¬ AcceptedBy [] e a :=
  accepts_eq_false_iff.1 rfl

/-- A pair in which no difference is found without rules has none with rules. -/
theorem mismatch_eq_none_of_structural (h : mismatch [] e a = none) :
    mismatch rules e a = none := by
  induction e using DataType.induction generalizing a with
  | scalar s =>
    cases a with
    | scalar t =>
      have hsame : s.difference? t = none := by simpa [mismatch, accepts] using h
      simp [mismatch, hsame]
    | list a => simp [mismatch, accepts] at h
    | struct as => simp [mismatch, accepts] at h
  | list e ih =>
    cases a with
    | scalar t => simp [mismatch, accepts] at h
    | list a =>
      have helement : mismatch [] e a = none := by simpa [mismatch, accepts] using h
      simp [mismatch, ih helement]
    | struct as => simp [mismatch, accepts] at h
  | struct es ih =>
    cases a with
    | scalar t => simp [mismatch, accepts] at h
    | list a => simp [mismatch, accepts] at h
    | struct as =>
      by_cases haccepted : AcceptedBy rules (.struct es) (.struct as)
      · exact mismatch_of_accepted haccepted
      · -- Members that agree without rules still agree, and nothing else is asked of the records.
        have hagree := (mismatch_struct_eq_none_iff not_acceptedBy_nil).1 h
        have hmembers := (List.forall₂_and_left es as).2 ⟨ih, hagree⟩
        refine (mismatch_struct_eq_none_iff haccepted).2 (hmembers.imp ?_)
        rintro f g ⟨htypes, hagrees⟩
        rcases Field.agrees_iff.1 hagrees with ⟨hname, hnullable, htype⟩
        exact Field.agrees_iff.2 ⟨hname, hnullable, htypes htype⟩

/-- No difference is found between a type and itself. -/
theorem mismatch_self (rules : List CompatibilityRule) (t : DataType) :
    mismatch rules t t = none := by
  apply mismatch_eq_none_of_structural
  induction t using DataType.induction with
  | scalar s => simp [mismatch, Scalar.difference?_eq_none_iff]
  | list t ih => simp [mismatch, ih]
  | struct fields ih =>
    refine (mismatch_struct_eq_none_iff not_acceptedBy_nil).2 (List.forall₂_same.2 ?_)
    intro f hf
    exact Field.agrees_iff.2 ⟨rfl, rfl, ih f hf⟩

/-! ## Rules that accept the same pairs -/

theorem memberMismatch_congr {es : List Field}
    (h : ∀ f ∈ es, ∀ a, mismatch rules f.type a = mismatch rules' f.type a) (index : Nat)
    (as : List Field) :
    memberMismatch rules index es as = memberMismatch rules' index es as := by
  induction es generalizing index as with
  | nil => simp [memberMismatch]
  | cons f es ih =>
    rcases List.forall_mem_cons.1 h with ⟨hf, hes⟩
    cases as with
    | nil => simp [memberMismatch]
    | cons g as =>
      cases f
      cases g
      simp only [memberMismatch, hf, ih hes]

/-- Rules matter only by the pairs that they accept. -/
theorem mismatch_congr (h : ∀ e a, accepts rules e a = accepts rules' e a) :
    mismatch rules e a = mismatch rules' e a := by
  induction e using DataType.induction generalizing a with
  | scalar s => cases a <;> simp [mismatch, h]
  | list e ih => cases a <;> simp [mismatch, h, ih]
  | struct es ih =>
    cases a with
    | scalar t => simp [mismatch, h]
    | list a => simp [mismatch, h]
    | struct as =>
      have hmembers := memberMismatch_congr (fun f hf a => ih f hf) 0 as
      simp only [mismatch, h, hmembers]

theorem agreementSteps_congr (h : ∀ e a, accepts rules e a = accepts rules' e a) :
    agreementSteps rules e a = agreementSteps rules' e a := by
  induction e using DataType.induction generalizing a with
  | scalar s => cases a <;> simp [agreementSteps]
  | list e ih => cases a <;> simp [agreementSteps, h, ih]
  | struct es ih => cases a <;> simp [agreementSteps]

theorem compareTypes_congr (h : ∀ e a, accepts rules e a = accepts rules' e a) (e a : DataType)
    (path : String) : compareTypes rules e a path = compareTypes rules' e a path := by
  rw [compareTypes, compareTypes, mismatch_congr h, agreementSteps_congr h]

/-! ## Comparing with more rules -/

theorem compareTypes_of_none {path : String} (h : mismatch rules e a = none) :
    (compareTypes rules e a path).equal = true ∧ (compareTypes rules e a path).message = "" := by
  rw [compareTypes, h]
  exact ⟨rfl, rfl⟩

/-- Whatever the rules say, they take no agreement away: types that compare equal without rules
compare equal with them, without a message, and so does every type with itself. Rules that accept
no pair, though they may veto any, change nothing at all. -/
theorem rules_only_relax (rules : List CompatibilityRule) (path : String) :
    (∀ e a, (compareTypes [] e a path).equal = true →
      (compareTypes rules e a path).equal = true ∧ (compareTypes rules e a path).message = "") ∧
    (∀ t, (compareTypes rules t t path).equal = true ∧
      (compareTypes rules t t path).message = "") ∧
    ((∀ e a, ¬ AcceptedBy rules e a) →
      ∀ e a, compareTypes rules e a path = compareTypes [] e a path) := by
  refine ⟨fun e a h => ?_, fun t => ?_, fun h e a => ?_⟩
  · exact compareTypes_of_none (mismatch_eq_none_of_structural (compareTypes_equal_iff.1 h))
  · exact compareTypes_of_none (mismatch_self rules t)
  · have hnone : ∀ e a, accepts rules e a = accepts [] e a :=
      fun e a => accepts_eq_false_iff.2 (h e a)
    exact compareTypes_congr hnone e a path

/-- A rule that vetoes every pair. -/
def CompatibilityRule.veto : CompatibilityRule :=
  ⟨"veto", fun _ _ => .incompatible⟩

/-- A list of records with a page of some width and metadata. -/
def pagesOf (width : Scalar) (metadata : Metadata) : DataType :=
  .list (.struct [⟨"page", .scalar width, false, metadata⟩])

/-- A veto in front of the rule of integers leaves lists of pages equal that differ in metadata
alone, and keeps the rule from taking pages of two widths for the same. -/
theorem rules_only_relax_veto :
    let rules := [CompatibilityRule.veto, .intWidening]
    let coded := Metadata.ofList [(Metadata.codecKey, "CODEC(ZSTD)")]
    (compareTypes [] (pagesOf .int64 ∅) (pagesOf .int64 coded) "pages").equal = true ∧
      (compareTypes rules (pagesOf .int64 ∅) (pagesOf .int64 coded) "pages").equal = true ∧
      (compareTypes rules (pagesOf .int64 ∅) (pagesOf .int64 coded) "pages").message = "" ∧
    (∀ e a, ¬ AcceptedBy rules e a) ∧
      compareTypes rules (pagesOf .int32 ∅) (pagesOf .int64 ∅) "pages" =
        compareTypes [] (pagesOf .int32 ∅) (pagesOf .int64 ∅) "pages" ∧
      (compareTypes [] (pagesOf .int32 ∅) (pagesOf .int64 ∅) "pages").equal = false := by
  intro rules coded
  rcases rules_only_relax rules "pages" with ⟨hrelax, -, hveto⟩
  have hplain : (compareTypes [] (pagesOf .int64 ∅) (pagesOf .int64 coded) "pages").equal = true :=
    compareTypes_equal_iff.2 (by decide)
  have hrejects : ∀ e a, ¬ AcceptedBy rules e a := fun e a => accepts_eq_false_iff.1 rfl
  have hwidths : mismatch [] (pagesOf .int32 ∅) (pagesOf .int64 ∅) ≠ none := by decide
  refine ⟨hplain, (hrelax _ _ hplain).1, (hrelax _ _ hplain).2, hrejects, hveto hrejects _ _, ?_⟩
  exact Bool.eq_false_iff.2 fun h => hwidths (compareTypes_equal_iff.1 h)

end Relaxation
end Ingest
