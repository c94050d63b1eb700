import Ingest.Schema.Diff
import Mathlib.Data.List.Nodup

/-!
# Coverage of a schema by a table

A table covers a field if it has a field of that name that the checker accepts. No column is
missing exactly if every field of the schema is covered, and a table keeps covering what it covers
when columns with other names are added.
-/

namespace Ingest

/-! ## Fields by name -/

theorem indexFields_append (older newer : List Field) (name : String) :
    indexFields (older ++ newer) name =
      (indexFields newer name).or (indexFields older name) := by
  simp [indexFields, List.find?_append]

theorem indexFields_eq_none_iff {fields : List Field} {name : String} :
    indexFields fields name = none ↔ name ∉ fields.map (·.name) := by
  simp [indexFields, List.find?_eq_none]

theorem indexFields_isSome_iff {fields : List Field} {name : String} :
    (indexFields fields name).isSome ↔ name ∈ fields.map (·.name) := by
  rw [← Option.ne_none_iff_isSome, ne_eq, indexFields_eq_none_iff, Classical.not_not]

theorem mem_of_indexFields {fields : List Field} {name : String} {f : Field}
    (h : indexFields fields name = some f) : f ∈ fields ∧ f.name = name := by
  have hmem : f ∈ fields := by
    simpa using List.mem_of_find?_eq_some h
  unfold indexFields at h
  exact ⟨hmem, by simpa using List.find?_some h⟩

/-- Among distinct names every field is found. -/
theorem indexFields_of_mem {fields : List Field} (hnd : (fields.map (·.name)).Nodup) {f : Field}
    (hf : f ∈ fields) : indexFields fields f.name = some f := by
  rcases Option.isSome_iff_exists.1 (indexFields_isSome_iff.2 (List.mem_map_of_mem hf)) with ⟨g, hg⟩
  rcases mem_of_indexFields hg with ⟨hmem, hname⟩
  rw [hg, List.inj_on_of_nodup_map hnd hmem hf hname]

/-! ## Coverage -/

/-- A table has a field that can take the values of an incoming one. -/
def Covers (checker : FieldChecker) (existing : FieldIndex) (f : Field) : Prop :=
  ∃ e, existing f.name = some e ∧ checker e f = none

/-- A column with another name leaves a field covered. -/
theorem Covers.append {checker : FieldChecker} {existing : List Field} {f g : Field}
    (h : Covers checker (indexFields existing) f) (hne : g.name ≠ f.name) :
    Covers checker (indexFields (existing ++ [g])) f := by
  rcases h with ⟨e, he, hfits⟩
  refine ⟨e, ?_, hfits⟩
  -- The newer column is looked at first, and does not have the name.
  have hother : indexFields [g] f.name = none := by
    simpa [indexFields_eq_none_iff] using Ne.symm hne
  rw [indexFields_append, hother, he]
  rfl

theorem conflicts_eq_nil_iff {table : String} {existing : FieldIndex} {checker : FieldChecker}
    {s : Schema} :
    conflicts table existing checker s = [] ↔
      ∀ f ∈ s.fields, ∀ e, existing f.name = some e → checker e f = none := by
  simp only [conflicts, List.filterMap_eq_nil_iff]
  refine forall₂_congr fun f _ => ?_
  cases existing f.name with
  | none => simp
  | some e => cases hc : checker e f <;> simp [hc]

/-- The comparison succeeds if nothing conflicts, and then names what is absent. -/
theorem missingColumns_eq_ok_iff {table : String} {existing : FieldIndex}
    {checker : FieldChecker} {s : Schema} {missing : List Field} :
    missingColumns table existing checker s = .ok missing ↔
      (∀ f ∈ s.fields, ∀ e, existing f.name = some e → checker e f = none) ∧
        absentFields existing s = missing := by
  rw [← @conflicts_eq_nil_iff table]
  unfold missingColumns
  cases conflicts table existing checker s <;> simp

theorem mem_absentFields {existing : FieldIndex} {s : Schema} {f : Field} :
    f ∈ absentFields existing s ↔ f ∈ s.fields ∧ existing f.name = none := by
  simp [absentFields]

/-- No column is missing exactly if every field is covered. -/
theorem missingColumns_eq_nil_iff {table : String} {existing : FieldIndex}
    {checker : FieldChecker} {s : Schema} :
    missingColumns table existing checker s = .ok [] ↔
      ∀ f ∈ s.fields, Covers checker existing f := by
  rw [missingColumns_eq_ok_iff]
  constructor
  · rintro ⟨hfit, habsent⟩ f hf
    cases he : existing f.name with
    | none =>
      -- An absent field would be listed as missing.
      have hmem : f ∈ absentFields existing s := mem_absentFields.2 ⟨hf, he⟩
      rw [habsent] at hmem
      cases hmem
    | some e => exact ⟨e, he, hfit f hf e he⟩
  · intro hcov
    refine ⟨?_, ?_⟩
    · intro f hf e he
      rcases hcov f hf with ⟨e', he', hfits⟩
      rw [Option.some.inj (he.symm.trans he')]
      exact hfits
    · apply List.filter_eq_nil_iff.2
      intro f hf
      rcases hcov f hf with ⟨e, he, -⟩
      simp [he]

/-- The absent fields of a schema have distinct names. -/
theorem nodup_absentFields (existing : FieldIndex) (s : Schema) :
    ((absentFields existing s).map (·.name)).Nodup :=
  s.nodup.sublist (List.filter_sublist.map _)

end Ingest
