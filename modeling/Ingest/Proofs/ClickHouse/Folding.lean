import Ingest.Proofs.ClickHouse.FoldingPass
import Ingest.Proofs.ClickHouse.RoundTrip
import Mathlib.Data.List.TakeWhile

/-!
# Folding and declared columns

Columns that are no parts of nested columns pass the folding unchanged, and behind any others they
can be appended before or after it. A part loses its name, which no other column takes. A declared
column is taken for a part exactly if its name has a full stop and it is declared as an array.
-/

namespace Ingest
namespace ClickHouse

/-! ## Parts -/

theorem splitAtStop_eq_none_iff {name : String} : splitAtStop name = none ↔ '.' ∉ name.toList := by
  have hdrop : name.toList.dropWhile (· != '.') = [] ↔ '.' ∉ name.toList := by
    rw [List.dropWhile_eq_nil_iff]
    constructor
    · intro h hmem
      exact absurd (h '.' hmem) (by decide)
    · intro h c hc
      have hne : c ≠ '.' := by
        rintro rfl
        exact h hc
      simpa using hne
  rw [← hdrop]
  unfold splitAtStop
  cases hrest : name.toList.dropWhile (· != '.') <;> simp [hrest]

theorem splitAtStop_eq_some {name parent part : String}
    (h : splitAtStop name = some (parent, part)) : '.' ∈ name.toList ∧ '.' ∉ parent.toList := by
  constructor
  · refine Classical.byContradiction fun hno => ?_
    rw [splitAtStop_eq_none_iff.2 hno] at h
    cases h
  · unfold splitAtStop at h
    simp only at h
    split at h
    · cases h
      intro hmem
      rw [String.toList_ofList] at hmem
      exact absurd (List.mem_takeWhile_imp hmem) (by decide)
    · cases h

/-- A column is a part of a nested column if its name has a full stop and it is an array. -/
theorem flatPart?_eq_none_iff {c : ColumnInfo} :
    c.flatPart? = none ↔
      ¬ ('.' ∈ c.name.toList ∧ ∃ element, TypeName.parse c.type = .ok (.array element)) := by
  unfold ColumnInfo.flatPart?
  cases hsplit : splitAtStop c.name with
  | none =>
    have hno := splitAtStop_eq_none_iff.1 hsplit
    simp [hno]
  | some names =>
    -- With a full stop in the name, the type alone decides.
    have hstop := (splitAtStop_eq_some hsplit).1
    simp only [Option.bind_eq_bind, Option.bind_some, hstop, true_and, not_exists]
    cases hparse : TypeName.parse c.type with
    | error e => simp
    | ok t => cases t <;> simp

theorem parent_of_flatPart? {c : ColumnInfo} {p : FlatPart} (h : c.flatPart? = some p) :
    '.' ∉ p.parent.toList := by
  unfold ColumnInfo.flatPart? at h
  rcases Option.bind_eq_some_iff.1 h with ⟨⟨parent, name⟩, hsplit, h⟩
  simp only at h
  split at h
  · cases h
    exact (splitAtStop_eq_some hsplit).2
  · cases h

/-! ## Folding -/

theorem partsOf_append_of_whole {columns added : List ColumnInfo}
    (h : ∀ c ∈ added, c.flatPart? = none) (parent : String) :
    partsOf parent (columns ++ added) = partsOf parent columns := by
  have hnone : partsOf parent added = [] := by
    apply List.filterMap_eq_nil_iff.2
    intro c hc
    rw [h c hc]
  rw [partsOf_append, hnone, List.append_nil]

theorem foldRest_of_whole {all : List ColumnInfo} {done : List String} {columns : List ColumnInfo}
    (h : ∀ c ∈ columns, c.flatPart? = none) : foldRest all done columns = columns := by
  induction columns with
  | nil => rfl
  | cons c rest ih =>
    rw [foldRest, h c List.mem_cons_self]
    simp only
    rw [ih fun c' hc' => h c' (List.mem_cons_of_mem c hc')]

theorem foldRest_append {all added : List ColumnInfo} (h : ∀ c ∈ added, c.flatPart? = none)
    (done : List String) (columns : List ColumnInfo) :
    foldRest (all ++ added) done (columns ++ added) = foldRest all done columns ++ added := by
  induction columns generalizing done with
  | nil => exact foldRest_of_whole h
  | cons c rest ih =>
    rw [List.cons_append, foldRest, foldRest]
    cases c.flatPart? with
    | none =>
      simp only
      rw [ih done, List.cons_append]
    | some p =>
      simp only
      by_cases hdone : p.parent ∈ done
      · rw [if_pos hdone, if_pos hdone, ih done]
      -- The first part stands for the whole nested column, which no added column belongs to.
      · rw [if_neg hdone, if_neg hdone, ih (p.parent :: done), nestedInfo, nestedInfo,
          partsOf_append_of_whole h, List.cons_append]

/-- Columns that are no parts can be appended after the folding. -/
theorem foldColumns_append {columns added : List ColumnInfo}
    (h : ∀ c ∈ added, c.flatPart? = none) :
    foldColumns (columns ++ added) = foldColumns columns ++ added := by
  rw [foldColumns_eq_foldRest, foldColumns_eq_foldRest]
  exact foldRest_append h [] columns

/-- Columns that are no parts pass unchanged. -/
theorem foldColumns_of_whole {columns : List ColumnInfo} (h : ∀ c ∈ columns, c.flatPart? = none) :
    foldColumns columns = columns := by
  rw [foldColumns_eq_foldRest, foldRest_of_whole h]

theorem mem_foldRest {all : List ColumnInfo} {done : List String} {columns : List ColumnInfo}
    {c : ColumnInfo} (h : c ∈ foldRest all done columns) :
    (c ∈ columns ∧ c.flatPart? = none) ∨ '.' ∉ c.name.toList := by
  induction columns generalizing done with
  | nil => cases h
  | cons d rest ih =>
    -- Whatever became of the first column, `c` may come from the others.
    have later : ∀ {done}, c ∈ foldRest all done rest →
        (c ∈ d :: rest ∧ c.flatPart? = none) ∨ '.' ∉ c.name.toList := by
      intro done h
      rcases ih h with ⟨hmem, hwhole⟩ | hstop
      · exact .inl ⟨List.mem_cons_of_mem d hmem, hwhole⟩
      · exact .inr hstop
    rw [foldRest] at h
    split at h
    · rename_i hwhole
      rcases List.mem_cons.1 h with rfl | h
      · exact .inl ⟨List.mem_cons_self, hwhole⟩
      · exact later h
    · rename_i p hpart
      split at h
      · exact later h
      · rcases List.mem_cons.1 h with rfl | h
        · exact .inr (parent_of_flatPart? hpart)
        · exact later h

/-- Only columns that are no parts keep a name with a full stop. -/
theorem mem_foldColumns {columns : List ColumnInfo} {c : ColumnInfo}
    (h : c ∈ foldColumns columns) :
    (c ∈ columns ∧ c.flatPart? = none) ∨ '.' ∉ c.name.toList := by
  rw [foldColumns_eq_foldRest] at h
  exact mem_foldRest h

/-! ## Declared columns -/

/-- Whether lists of a type are arrays, as they are unless they hold records. -/
def isArrayed : DataType → Bool
  | .list (.struct _) => false
  | .list _ => true
  | _ => false

theorem type_of_listColumn {zones : Calendar.ZoneDatabase} {element : DataType} {c : ColumnType}
    (h : listColumn zones element = .ok c) :
    (∃ t, c.type = .array t) ↔ isArrayed (.list element) = true := by
  cases element with
  | struct fields =>
    rcases nestedColumn_eq_ok h with ⟨columns, -, htype, -⟩
    simp [htype, isArrayed]
  | scalar s =>
    rcases Outcome.map_eq_ok h with ⟨c₀, -, rfl⟩
    simp [arrayColumn, isArrayed]
  | list element =>
    rw [listColumn] at h
    rcases Outcome.map_eq_ok h with ⟨c₀, -, rfl⟩
    simp [arrayColumn, isArrayed]

/-- A type is declared as an array exactly if it is a list of other things than records. -/
theorem type_of_toColumn {zones : Calendar.ZoneDatabase} {t : NeutralType} {c : ColumnType}
    (h : toColumn zones t = .ok c) :
    (∃ element, c.type = .array element) ↔ isArrayed t.type = true := by
  rcases t with ⟨type, nullable, metadata⟩
  cases type with
  | struct members => cases h
  | list element => exact type_of_listColumn h
  | scalar s =>
    rcases Outcome.map_eq_ok h with ⟨c₀, hc₀, rfl⟩
    have hnot : ∀ element, c₀.type ≠ .array element := by
      rcases type_of_scalarColumn hc₀ with ⟨name, htype⟩ | ⟨precision, zone, htype⟩ <;> simp [htype]
    cases metadata.flag Metadata.lowCardinalityKey <;> cases nullable <;>
      simp [ColumnType.dictionaryEncoded, ColumnType.withDefault, hnot, isArrayed]

/-- A field is found again in its column: all records in its type have members, which are nullable
and named by words, and the column is not taken for a part of a nested one. -/
def Storable (f : Field) : Prop :=
  (wellNamed f.type = true ∧ nullableWithin f.type = true) ∧
    ¬ ('.' ∈ f.name.toList ∧ isArrayed f.type = true)

instance (f : Field) : Decidable (Storable f) :=
  inferInstanceAs (Decidable ((_ ∧ _) ∧ ¬ (_ ∧ _)))

theorem storable_iff {zones : Calendar.ZoneDatabase} (hz : PlainZones zones) {f : Field}
    {info : ColumnInfo} (h : declaredColumn zones f = .ok info) :
    Storable f ↔ Fits info f ∧ info.flatPart? = none := by
  have hfits := fits_iff hz h
  have hname := name_of_declaredColumn h
  rw [Storable, ← hfits, flatPart?_eq_none_iff, hname]
  apply and_congr_right
  intro hfit
  rcases parse_declaredColumn hz h (hfits.1 hfit).1 with ⟨c, hc, hparse⟩
  -- The text of the column is read back as its type, so that its shape is that of the field.
  have hshape : (∃ element, c.type = .array element) ↔ isArrayed f.type = true :=
    type_of_toColumn hc
  have harray : (∃ element, TypeName.parse info.type = .ok (.array element)) ↔
      isArrayed f.type = true := by
    rw [hparse]
    simpa using hshape
  rw [harray]

end ClickHouse
end Ingest
