import Ingest.Proofs.Schema.Coverage
import Ingest.Proofs.Schema.Relaxation

/-!
# What the comparison of a schema with a table finds

Either every field that the table has fits, and the fields that it does not have are missing, or the
comparison fails with an entry for each field that does not fit (`missingColumns_exact`). With the
missing fields added nothing is missing any more.
-/

namespace Ingest

open scoped List

/-! ## Fields that fit -/

/-- A field of a table can take the values of an incoming one: their types agree up to rules, and
both are nullable or both not, unless one of them is a list. -/
structure Field.Fits (rules : List CompatibilityRule) (existing incoming : Field) : Prop where
  nullability : existing.type.isList = false → incoming.type.isList = false →
    existing.nullable = incoming.nullable
  types : ∀ path, (compareTypes rules existing.type incoming.type path).equal = true

/-- A table has a field of the name of an incoming one that does not fit it. -/
def Clashes (rules : List CompatibilityRule) (existing : FieldIndex) (f : Field) : Prop :=
  ∃ e, existing f.name = some e ∧ ¬ e.Fits rules f

/-- What is said of an incoming field that the field of the table does not fit. -/
structure Incompatibility.Tells (rules : List CompatibilityRule) (table : String)
    (current incoming : Field) (entry : Incompatibility) : Prop where
  table : entry.table = table
  column : entry.column = incoming.name
  existing : TypeText current.type entry.existing
  expected : TypeText incoming.type entry.expected
  detail : entry.detail = FieldChecker.strictNullability rules current incoming

/-- The fields of a list that have some property, in the order of the list. -/
structure Selects (P : Field → Prop) (fields part : List Field) : Prop where
  sublist : part <+ fields
  mem_iff : ∀ f, f ∈ part ↔ f ∈ fields ∧ P f

/-- The fields of one index, and under other names those of an earlier one. -/
def FieldIndex.extend (existing newer : FieldIndex) : FieldIndex := fun name =>
  (newer name).or (existing name)

section Fits

variable {rules : List CompatibilityRule} {existing : FieldIndex} {e f : Field}

theorem strictNullability_eq_none_iff :
    FieldChecker.strictNullability rules e f = none ↔ e.Fits rules f := by
  have htypes : mismatch rules e.type f.type = none ↔
      ∀ path, (compareTypes rules e.type f.type path).equal = true := by
    simp [compareTypes_equal_iff]
  rw [FieldChecker.strictNullability]
  by_cases hlists : (e.type.isList || f.type.isList) = true
  · -- Where a list takes part nullability is not looked at.
    rw [hlists, Bool.not_true, Bool.false_and, if_neg Bool.false_ne_true, Option.map_eq_none_iff,
      htypes]
    refine ⟨fun h => ⟨fun he hf => ?_, h⟩, fun h => h.types⟩
    rw [he, hf] at hlists
    cases hlists
  · rcases Bool.or_eq_false_iff.1 (Bool.eq_false_iff.2 hlists) with ⟨he, hf⟩
    by_cases hnullable : e.nullable = f.nullable
    · simp only [he, hf, hnullable, bne_self_eq_false, Bool.and_false, Bool.false_eq_true, if_false,
        Option.map_eq_none_iff, htypes]
      exact ⟨fun h => ⟨fun _ _ => hnullable, h⟩, fun h => h.types⟩
    · simp only [he, hf, Bool.or_self, Bool.not_false, Bool.true_and, bne_iff_ne, ne_eq, hnullable,
        not_false_eq_true, if_true, reduceCtorEq, false_iff]
      exact fun h => hnullable (h.nullability he hf)

/-- Every field fits itself. -/
theorem Field.fits_self (rules : List CompatibilityRule) (f : Field) : f.Fits rules f where
  nullability _ _ := rfl
  types _ := compareTypes_equal_iff.2 (mismatch_self rules f.type)

theorem not_clashes_iff : ¬ Clashes rules existing f ↔
    ∀ e, existing f.name = some e → FieldChecker.strictNullability rules e f = none := by
  simp [Clashes, strictNullability_eq_none_iff]

end Fits

/-! ## What fails and what is missing -/

section Comparing

variable {table : String} {rules : List CompatibilityRule} {existing : FieldIndex} {s : Schema}

/-- What is kept of each element that has a result, in order. -/
theorem forall₂_filterMap {α β : Type} {g : α → Option β} {R : α → β → Prop}
    (h : ∀ a b, g a = some b → R a b) (as : List α) :
    List.Forall₂ R (as.filter fun a => (g a).isSome) (as.filterMap g) := by
  induction as with
  | nil => exact .nil
  | cons a as ih =>
    cases hg : g a with
    | none => simpa [hg] using ih
    | some b =>
      simp only [List.filter_cons, List.filterMap_cons, hg, Option.isSome_some, if_true]
      exact .cons (h a b hg) ih

theorem selects_filter {P : Field → Prop} {p : Field → Bool} (h : ∀ f, p f = true ↔ P f)
    (fields : List Field) : Selects P fields (fields.filter p) where
  sublist := List.filter_sublist
  mem_iff f := by rw [List.mem_filter, h f]

/-- The entries are those of the fields that clash, in their order. -/
theorem conflicts_entries (table : String) (rules : List CompatibilityRule) (existing : FieldIndex)
    (s : Schema) :
    ∃ clashing, Selects (Clashes rules existing) s.fields clashing ∧
      List.Forall₂ (fun f entry => ∃ e, existing f.name = some e ∧
          Incompatibility.Tells rules table e f entry)
        clashing (conflicts table existing (.strictNullability rules) s) := by
  refine ⟨_, selects_filter (fun f => ?_) s.fields, forall₂_filterMap ?_ s.fields⟩
  · cases he : existing f.name with
    | none => simp [Clashes, he]
    | some e =>
      have hfits := @strictNullability_eq_none_iff rules e f
      cases hdetail : FieldChecker.strictNullability rules e f <;>
        simp_all [Clashes]
  · intro f entry h
    rcases Option.bind_eq_some_iff.1 h with ⟨e, he, h⟩
    rcases Option.bind_eq_some_iff.1 h with ⟨detail, hdetail, h⟩
    cases h
    exact ⟨e, he, rfl, rfl, typeText_text e.type, typeText_text f.type, hdetail.symm⟩

theorem missingColumns_eq_error_iff {checker : FieldChecker} {failure : Failure} :
    missingColumns table existing checker s = .error failure ↔
      conflicts table existing checker s ≠ [] ∧
        failure = .multipleTypeIncompatible table (conflicts table existing checker s) := by
  unfold missingColumns
  cases conflicts table existing checker s with
  | nil => simp
  | cons entry entries => simp [eq_comm]

/-- With what is missing added nothing is missing. -/
theorem missingColumns_extend {missing : List Field}
    (h : missingColumns table existing (.strictNullability rules) s = .ok missing) :
    missingColumns table (existing.extend (indexFields missing)) (.strictNullability rules) s =
      .ok [] := by
  rcases missingColumns_eq_ok_iff.1 h with ⟨hfit, rfl⟩
  refine missingColumns_eq_nil_iff.2 fun f hf => ?_
  cases he : existing f.name with
  | none =>
    -- The field itself was added, under a name that no other field of the schema has.
    have hadded := indexFields_of_mem (nodup_absentFields existing s)
      (mem_absentFields.2 ⟨hf, he⟩)
    refine ⟨f, ?_, strictNullability_eq_none_iff.2 (Field.fits_self rules f)⟩
    rw [FieldIndex.extend, hadded]
    rfl
  | some e =>
    have hother : indexFields (absentFields existing s) f.name = none := by
      refine indexFields_eq_none_iff.2 fun hmem => ?_
      rcases List.mem_map.1 hmem with ⟨g, hg, hname⟩
      have habsent := (mem_absentFields.1 hg).2
      rw [hname, he] at habsent
      cases habsent
    refine ⟨e, ?_, hfit f hf e he⟩
    rw [FieldIndex.extend, hother, he]
    rfl

/-- The comparison of a schema with a table fails exactly if a field clashes with what the table
has, and then with one entry for each such field, in the order of the schema, that names the
types of both sides. Otherwise it finds the fields that the table does not have, in the order of the
schema, and with these added to the table it finds nothing. -/
theorem missingColumns_exact (table : String) (rules : List CompatibilityRule)
    (existing : FieldIndex) (s : Schema) :
    ((∃ failure, missingColumns table existing (.strictNullability rules) s = .error failure) ↔
      ∃ f ∈ s.fields, Clashes rules existing f) ∧
    (∀ failure, missingColumns table existing (.strictNullability rules) s = .error failure →
      ∃ clashing entries, failure = .multipleTypeIncompatible table entries ∧
        Selects (Clashes rules existing) s.fields clashing ∧
        List.Forall₂ (fun f entry => ∃ e, existing f.name = some e ∧
          Incompatibility.Tells rules table e f entry) clashing entries) ∧
    ((∀ f ∈ s.fields, ¬ Clashes rules existing f) →
      ∃ missing, missingColumns table existing (.strictNullability rules) s = .ok missing ∧
        Selects (fun f => existing f.name = none) s.fields missing) ∧
    ∀ missing, missingColumns table existing (.strictNullability rules) s = .ok missing →
      missingColumns table (existing.extend (indexFields missing)) (.strictNullability rules) s =
        .ok [] := by
  have hnone : conflicts table existing (.strictNullability rules) s = [] ↔
      ∀ f ∈ s.fields, ¬ Clashes rules existing f := by
    simp only [conflicts_eq_nil_iff, not_clashes_iff]
  refine ⟨?_, ?_, ?_, fun missing => missingColumns_extend⟩
  · have hsome : (∃ f ∈ s.fields, Clashes rules existing f) ↔
        conflicts table existing (.strictNullability rules) s ≠ [] := by
      rw [ne_eq, hnone]
      simp
    rw [hsome]
    constructor
    · rintro ⟨failure, hfailure⟩
      exact (missingColumns_eq_error_iff.1 hfailure).1
    · intro hne
      exact ⟨_, missingColumns_eq_error_iff.2 ⟨hne, rfl⟩⟩
  · intro failure hfailure
    rcases conflicts_entries table rules existing s with ⟨clashing, hclashing, hentries⟩
    exact ⟨clashing, _, (missingColumns_eq_error_iff.1 hfailure).2, hclashing, hentries⟩
  · intro hfit
    refine ⟨absentFields existing s, ?_, selects_filter (fun f => by simp) s.fields⟩
    exact missingColumns_eq_ok_iff.2 ⟨conflicts_eq_nil_iff.1 (hnone.2 hfit), rfl⟩

/-- A schema of visits with a note. -/
def notedVisits : Schema where
  fields := [.plain "id" (.scalar .int64) false, .plain "page" (.scalar .int32) false,
    .plain "note" (.scalar .string) true]
  nodup := by decide

/-- The fields of a table of visits without notes, with identifiers of some type. -/
def plainVisits (id : Scalar) : FieldIndex :=
  indexFields [.plain "id" (.scalar id) false, .plain "page" (.scalar .int64) false]

/-- Identifiers that are texts clash with numbers; otherwise the note is missing, and nothing once
it is added. Pages may have either width. -/
theorem missingColumns_exact_visits :
    let compare := fun existing : FieldIndex =>
      missingColumns "visits" existing (.strictNullability [.intWidening]) notedVisits
    let note := Field.plain "note" (.scalar .string) true
    (∃ clashing entries,
      compare (plainVisits .string) = .error (.multipleTypeIncompatible "visits" entries) ∧
      Selects (Clashes [.intWidening] (plainVisits .string)) notedVisits.fields clashing ∧
      entries.length = clashing.length ∧ entries.map (·.column) = ["id"]) ∧
    (∀ f ∈ notedVisits.fields, ¬ Clashes [.intWidening] (plainVisits .int64) f) ∧
      compare (plainVisits .int64) = .ok [note] ∧
      compare ((plainVisits .int64).extend (indexFields [note])) = .ok [] := by
  intro compare note
  have hfound : compare (plainVisits .int64) = .ok [note] := rfl
  have hfails : ∃ failure, compare (plainVisits .string) = .error failure := ⟨_, rfl⟩
  rcases missingColumns_exact "visits" [.intWidening] (plainVisits .string) notedVisits with
    ⟨-, htold, -, -⟩
  rcases missingColumns_exact "visits" [.intWidening] (plainVisits .int64) notedVisits with
    ⟨hfailure, -, -, hagain⟩
  refine ⟨?_, ?_, hfound, hagain _ hfound⟩
  · rcases hfails with ⟨failure, hfails⟩
    rcases htold failure hfails with ⟨clashing, entries, rfl, hclashing, hentries⟩
    refine ⟨clashing, entries, hfails, hclashing, hentries.length_eq.symm, ?_⟩
    cases hfails
    rfl
  · intro f hf hclash
    rcases hfailure.2 ⟨f, hf, hclash⟩ with ⟨failure, hfails⟩
    cases hfound.symm.trans hfails

end Comparing
end Ingest
