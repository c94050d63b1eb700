import Ingest.Proofs.ClickHouse.Extension
import Ingest.Proofs.ClickHouse.Layout
import Mathlib.Data.List.Dedup

/-!
# Names after folding

Folding keeps the names of columns that are no parts, and gives each nested column the name that its
parts have before the full stop. Of columns with distinct names the folded ones therefore have
distinct names exactly if no column that is no part bears the name of a nested one
(`nodup_folded_names_iff`). Otherwise two folded columns share a name: the index of existing
fields finds only one of them, and a schema that fits the layout check has a field that no column of
the insert is for.
-/

namespace Ingest
namespace ClickHouse

open scoped List

/-- The names of the nested columns that parts belong to, once for each part. -/
def parentsOf (columns : List ColumnInfo) : List String :=
  (columns.filterMap ColumnInfo.flatPart?).map (·.parent)

/-- The columns that are no parts. -/
def wholesOf (columns : List ColumnInfo) : List ColumnInfo :=
  columns.filter (·.flatPart?.isNone)

/-- No column that is no part bears the name of a nested column that others are parts of. -/
def PartsApart (columns : List ColumnInfo) : Prop :=
  ∀ c ∈ wholesOf columns, c.name ∉ parentsOf columns

instance (columns : List ColumnInfo) : Decidable (PartsApart columns) :=
  inferInstanceAs (Decidable (∀ c ∈ wholesOf columns, _))

/-! ## The names of folded columns -/

/-- The first of several parts makes its parent known. -/
theorem dedup_filter_cons_perm {name : String} {done : List String} (h : name ∉ done)
    (names : List String) :
    ((name :: names).filter (· ∉ done)).dedup ~
      name :: (names.filter (· ∉ name :: done)).dedup := by
  apply (List.perm_ext_iff_of_nodup (List.nodup_dedup _) ?_).2
  · intro other
    by_cases hother : other = name <;> simp [hother, h]
  · apply List.nodup_cons.2
    simp [List.nodup_dedup]

theorem perm_names_foldRest (all : List ColumnInfo) (done : List String)
    (columns : List ColumnInfo) :
    (foldRest all done columns).map (·.name) ~
      (wholesOf columns).map (·.name) ++ ((parentsOf columns).filter (· ∉ done)).dedup := by
  induction columns generalizing done with
  | nil => exact .refl _
  | cons c rest ih =>
    rw [foldRest]
    cases hpart : c.flatPart? with
    | none => simpa [wholesOf, parentsOf, hpart] using ih done
    | some p =>
      by_cases hdone : p.parent ∈ done
      · simpa [wholesOf, parentsOf, hpart, hdone] using ih done
      · have hparents : parentsOf (c :: rest) = p.parent :: parentsOf rest := by
          simp [parentsOf, hpart]
        have hwholes : wholesOf (c :: rest) = wholesOf rest := by simp [wholesOf, hpart]
        simp only [if_neg hdone, hparents, hwholes, List.map_cons, nestedInfo]
        calc
          p.parent :: (foldRest all (p.parent :: done) rest).map (·.name)
              ~ p.parent :: ((wholesOf rest).map (·.name) ++
                  ((parentsOf rest).filter (· ∉ p.parent :: done)).dedup) :=
            (ih (p.parent :: done)).cons _
          _ ~ (wholesOf rest).map (·.name) ++
                p.parent :: ((parentsOf rest).filter (· ∉ p.parent :: done)).dedup :=
            List.perm_middle.symm
          _ ~ _ := (dedup_filter_cons_perm hdone (parentsOf rest)).symm.append_left _

/-- Folded columns have the names of those that are no parts, and the name of each nested column
once. -/
theorem perm_names_foldColumns (columns : List ColumnInfo) :
    (foldColumns columns).map (·.name) ~
      (wholesOf columns).map (·.name) ++ (parentsOf columns).dedup := by
  simpa [foldColumns_eq_foldRest] using perm_names_foldRest columns [] columns

theorem nodup_names_foldColumns_iff {columns : List ColumnInfo}
    (h : (columns.map (·.name)).Nodup) :
    ((foldColumns columns).map (·.name)).Nodup ↔ PartsApart columns := by
  have hwholes : ((wholesOf columns).map (·.name)).Nodup :=
    h.sublist (List.filter_sublist.map _)
  rw [(perm_names_foldColumns columns).nodup_iff, List.nodup_append', and_iff_right hwholes,
    and_iff_right (List.nodup_dedup _), PartsApart, List.disjoint_left]
  simp

/-- A schema that fits the layout check has a column for each field exactly if no name occurs
twice. -/
theorem nodup_iff_of_checkLayout {setup : Setup} {table : String} {s : Schema}
    {columns : List String} (h : setup.checkLayout table s columns = .ok ()) :
    columns.Nodup ↔ ∀ name ∈ s.names, name ∈ columns := by
  constructor
  · intro hnd name hname
    exact (perm_of_checkLayout hnd h).mem_iff.2 hname
  · intro hall
    have hnames : s.names.Nodup := s.nodup
    have hperm : s.names ~ columns :=
      (hnames.subperm hall).perm_of_length_le (mem_names_of_checkLayout h).1.le
    exact hperm.nodup_iff.1 hnames

/-! ## What the names are for -/

/-- Of columns with distinct names, the folded ones have distinct names exactly if no column that is
no part bears the name of a nested one. Every field that they are read back as is then found by its
name. A schema that fits the layout check has a column for each field in this case only. -/
theorem nodup_folded_names_iff {columns : List ColumnInfo} (h : (columns.map (·.name)).Nodup) :
    let folded := foldColumns columns
    ((folded.map (·.name)).Nodup ↔ PartsApart columns) ∧
      (PartsApart columns → ∀ existing, Reads folded existing →
        ∀ f ∈ existing, indexFields existing f.name = some f) ∧
      ∀ (setup : Setup) (table : String) (s : Schema),
        setup.checkLayout table s (folded.map (·.name)) = .ok () →
          (PartsApart columns ↔ ∀ name ∈ s.names, name ∈ folded.map (·.name)) := by
  intro folded
  have hiff := nodup_names_foldColumns_iff h
  refine ⟨hiff, ?_, ?_⟩
  · intro happart existing hread f hf
    have hnd : (existing.map (·.name)).Nodup := by
      rw [names_of_reads hread]
      exact hiff.2 happart
    exact indexFields_of_mem hnd hf
  · intro setup table s hfits
    exact hiff.symm.trans (nodup_iff_of_checkLayout hfits)

/-- Two nested columns stand beside a column that has the name of a part without its stop. -/
theorem nodup_folded_names_apart :
    let columns : List ColumnInfo :=
      [⟨"p.k", "Array(String)", ""⟩, ⟨"k", "String", ""⟩, ⟨"q.k", "Array(Int32)", ""⟩,
        ⟨"p.v", "Array(Int64)", ""⟩]
    (columns.map (·.name)).Nodup ∧ PartsApart columns ∧
      ((foldColumns columns).map (·.name)).Nodup := by
  intro columns
  have hnd : (columns.map (·.name)).Nodup := by decide
  have happart : PartsApart columns := by decide +kernel
  exact ⟨hnd, happart, (nodup_folded_names_iff hnd).1.2 happart⟩

/-- The schema of two required strings. -/
def twoStrings : Schema :=
  ⟨[.plain "p" (.scalar .string) false, .plain "q" (.scalar .string) false], by decide⟩

/-- A string and a list under dotted names are declared as columns of different names, but the list
is folded to a nested column with the name of the string. The index does not find the string, and
an insert for two strings names the one column twice and leaves out the other. -/
theorem folded_names_repeat :
    let setup : Setup := ⟨{ database := "d" }, fun _ => none⟩
    let fields : List Field := [.plain "p" (.scalar .string) false,
      .plain "p.k" (.list (.scalar .string)) false]
    let columns : List ColumnInfo := [⟨"p", "String", ""⟩, ⟨"p.k", "Array(String)", ""⟩]
    Declares setup.zones fields columns ∧ (columns.map (·.name)).Nodup ∧
      (foldColumns columns).map (·.name) = ["p", "p"] ∧
      ¬ ((foldColumns columns).map (·.name)).Nodup ∧
      (∃ existing, Reads (foldColumns columns) existing ∧
        ∃ f ∈ existing, indexFields existing f.name ≠ some f) ∧
      setup.checkLayout "t" twoStrings ["p", "p"] = .ok () ∧ "q" ∈ twoStrings.names := by
  intro setup fields columns
  have hdeclared : Declares setup.zones fields columns := .cons rfl (.cons rfl .nil)
  have hfolded : foldColumns columns = [⟨"p", "String", ""⟩, ⟨"p", "Nested(k String)", ""⟩] := by
    decide +kernel
  let existing : List Field := [.plain "p" (.scalar .string) false,
    .plain "p" (.list (.struct [.plain "k" (.scalar .string) true])) false]
  have hread : Reads (foldColumns columns) existing := by
    rw [hfolded]
    exact .cons (by decide +kernel) (.cons (by decide +kernel) .nil)
  have hnames : (foldColumns columns).map (·.name) = ["p", "p"] := by
    rw [hfolded]
    rfl
  have hlost : indexFields existing "p" ≠ some (.plain "p" (.scalar .string) false) := by
    decide +kernel
  exact ⟨hdeclared, by decide, hnames, by simp [hnames],
    ⟨existing, hread, _, List.mem_cons_self, hlost⟩, by decide +kernel, by decide⟩

end ClickHouse
end Ingest
