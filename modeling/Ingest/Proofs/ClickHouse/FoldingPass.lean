import Ingest.ClickHouse.Folding
import Ingest.Proofs.Dict

/-!
# Folding in one pass

`foldColumns` goes through the columns once: it keeps a place for each nested column, gathers the
parts beside the columns, and fills the places at the end. Each column that is taken keeps what the
pass knows in step with the columns before (`Folding.Holds.add`), so that in the end every place is
filled from the parts that belong to it. `foldColumns_eq_foldRest` reads the result off the list of
columns by recursion; the order in which the places are filled does not matter.
-/

namespace Ingest
namespace ClickHouse

/-! ## Folding by recursion -/

/-- The parts of the nested column of a name, in order. -/
def partsOf (parent : String) (columns : List ColumnInfo) : List (String × TypeName) :=
  columns.filterMap fun c =>
    match c.flatPart? with
    | some p => if p.parent = parent then some (p.name, p.type) else none
    | none => none

def nestedInfo (parent : String) (columns : List ColumnInfo) : ColumnInfo :=
  ⟨parent, (TypeName.nested (partsOf parent columns)).text, ""⟩

/-- Folds the rest of a list of columns; the nested columns of `done` are there already. -/
def foldRest (all : List ColumnInfo) (done : List String) : List ColumnInfo → List ColumnInfo
  | [] => []
  | c :: rest =>
    match c.flatPart? with
    | none => c :: foldRest all done rest
    | some p =>
      -- Later parts stand in the column of the first.
      if p.parent ∈ done then foldRest all done rest
      else nestedInfo p.parent all :: foldRest all (p.parent :: done) rest

/-! ## Places -/

/-- What stands at a place of the folded columns. -/
inductive Slot where
  | whole (column : ColumnInfo)
  | nested (parent : String)
  deriving DecidableEq

namespace Slot

/-- The column at a place as long as the parts of nested columns are not known. -/
def opened : Slot → ColumnInfo
  | whole c => c
  | nested parent => ⟨parent, "", ""⟩

def closed (all : List ColumnInfo) : Slot → ColumnInfo
  | whole c => c
  | nested parent => nestedInfo parent all

end Slot

/-- The places of the folded columns; those of `done` are there already. -/
def slots (done : List String) : List ColumnInfo → List Slot
  | [] => []
  | c :: rest =>
    match c.flatPart? with
    | none => .whole c :: slots done rest
    | some p =>
      if p.parent ∈ done then slots done rest
      else .nested p.parent :: slots (p.parent :: done) rest

theorem foldRest_eq_map_closed (all : List ColumnInfo) (done : List String)
    (columns : List ColumnInfo) :
    foldRest all done columns = (slots done columns).map (Slot.closed all) := by
  induction columns generalizing done with
  | nil => rfl
  | cons c rest ih =>
    rw [foldRest, slots]
    cases c.flatPart? with
    | none =>
      simp only
      rw [ih, List.map_cons, Slot.closed]
    | some p =>
      simp only
      by_cases hdone : p.parent ∈ done
      · rw [if_pos hdone, if_pos hdone, ih]
      · rw [if_neg hdone, if_neg hdone, ih, List.map_cons, Slot.closed]

theorem slots_concat_whole {c : ColumnInfo} (h : c.flatPart? = none) (done : List String)
    (columns : List ColumnInfo) :
    slots done (columns ++ [c]) = slots done columns ++ [.whole c] := by
  induction columns generalizing done with
  | nil => simp [slots, h]
  | cons d rest ih =>
    rw [List.cons_append, slots, slots]
    cases d.flatPart? with
    | none => simp [ih]
    | some p => by_cases hdone : p.parent ∈ done <;> simp [hdone, ih]

theorem slots_concat_part {c : ColumnInfo} {p : FlatPart} (h : c.flatPart? = some p)
    (done : List String) (columns : List ColumnInfo) :
    slots done (columns ++ [c]) =
      if p.parent ∈ done ∨ .nested p.parent ∈ slots done columns then slots done columns
      else slots done columns ++ [.nested p.parent] := by
  induction columns generalizing done with
  | nil => simp [slots, h]
  | cons d rest ih =>
    rw [List.cons_append, slots, slots]
    cases d.flatPart? with
    | none =>
      simp only [ih, List.mem_cons, reduceCtorEq, false_or]
      split <;> rfl
    | some q =>
      simp only
      by_cases hdone : q.parent ∈ done
      · simp only [if_pos hdone, ih]
      -- The place that the first column opens counts as done for the rest.
      · have hplace : (p.parent ∈ q.parent :: done ∨
            .nested p.parent ∈ slots (q.parent :: done) rest) ↔
            (p.parent ∈ done ∨ .nested p.parent ∈
              Slot.nested q.parent :: slots (q.parent :: done) rest) := by
          rw [List.mem_cons, List.mem_cons, Slot.nested.injEq, or_assoc, or_left_comm]
        simp only [if_neg hdone, ih, hplace]
        split <;> rfl

/-- A nested column that has no place has no parts. -/
theorem partsOf_eq_nil {parent : String} {done : List String} {columns : List ColumnInfo}
    (hdone : parent ∉ done) (h : .nested parent ∉ slots done columns) :
    partsOf parent columns = [] := by
  induction columns generalizing done with
  | nil => rfl
  | cons c rest ih =>
    rw [slots] at h
    rw [partsOf, List.filterMap_cons]
    cases hpart : c.flatPart? with
    | none =>
      rw [hpart] at h
      exact ih hdone fun hmem => h (List.mem_cons_of_mem _ hmem)
    | some p =>
      simp only [hpart] at h ⊢
      by_cases hparent : p.parent = parent
      · subst hparent
        rw [if_neg hdone] at h
        exact absurd List.mem_cons_self h
      · rw [if_neg hparent]
        split at h
        · exact ih hdone h
        · have hlater : parent ∉ p.parent :: done := by simp [Ne.symm hparent, hdone]
          exact ih hlater fun hmem => h (List.mem_cons_of_mem _ hmem)

theorem partsOf_append (parent : String) (columns added : List ColumnInfo) :
    partsOf parent (columns ++ added) = partsOf parent columns ++ partsOf parent added :=
  List.filterMap_append

theorem getElem?_concat_eq_some_iff {α : Type} {l : List α} {a b : α} {i : Nat} :
    (l ++ [a])[i]? = some b ↔ l[i]? = some b ∨ l.length = i ∧ a = b := by
  rw [List.getElem?_append]
  grind

/-! ## The pass -/

namespace Folding

/-- What the pass knows after some columns: the places they opened, and the parts they gave to each
nested column. -/
structure Holds (columns : List ColumnInfo) (s : Folding) : Prop where
  columns_eq : s.columns = (slots [] columns).map Slot.opened
  sorted : Dict.Sorted s.nested
  get?_iff : ∀ parent place parts, Dict.get? s.nested parent = some (place, parts) ↔
    (slots [] columns)[place]? = some (.nested parent) ∧ parts = partsOf parent columns

theorem Holds.start : Holds [] {} where
  columns_eq := rfl
  sorted := List.Pairwise.nil
  get?_iff := by simp [Dict.get?, slots]

/-- A nested column has a place in the pass exactly if it has one in the list. -/
theorem Holds.get?_eq_none_iff {columns : List ColumnInfo} {s : Folding} (h : Holds columns s)
    (parent : String) :
    Dict.get? s.nested parent = none ↔ .nested parent ∉ slots [] columns := by
  rw [Option.eq_none_iff_forall_ne_some, List.mem_iff_getElem?]
  constructor
  · rintro hnone ⟨place, hplace⟩
    exact hnone _ ((h.get?_iff parent place _).2 ⟨hplace, rfl⟩)
  · rintro hno ⟨place, parts⟩ hsome
    exact hno ⟨place, ((h.get?_iff parent place parts).1 hsome).1⟩

theorem Holds.add_whole {columns : List ColumnInfo} {s : Folding} {c : ColumnInfo}
    (h : Holds columns s) (hwhole : c.flatPart? = none) : Holds (columns ++ [c]) (s.add c) := by
  have hslots := slots_concat_whole hwhole [] columns
  have hparts : ∀ parent, partsOf parent (columns ++ [c]) = partsOf parent columns := by
    intro parent
    simp [partsOf, hwhole]
  unfold Folding.add
  rw [hwhole]
  refine ⟨?_, h.sorted, fun parent place parts => ?_⟩
  · simp [hslots, h.columns_eq, Slot.opened]
  · simp [h.get?_iff, hslots, hparts, getElem?_concat_eq_some_iff]

theorem Holds.add_first {columns : List ColumnInfo} {s : Folding} {c : ColumnInfo} {p : FlatPart}
    (h : Holds columns s) (hpart : c.flatPart? = some p)
    (hnew : .nested p.parent ∉ slots [] columns) : Holds (columns ++ [c]) (s.add c) := by
  have hslots : slots [] (columns ++ [c]) = slots [] columns ++ [.nested p.parent] := by
    rw [slots_concat_part hpart, if_neg (by simpa using hnew)]
  have hlength : s.columns.length = (slots [] columns).length := by
    rw [h.columns_eq, List.length_map]
  unfold Folding.add
  simp only [hpart, (h.get?_eq_none_iff p.parent).2 hnew]
  refine ⟨?_, Dict.sorted_insert h.sorted _ _, fun parent place parts => ?_⟩
  · simp [hslots, h.columns_eq, Slot.opened]
  · rw [Dict.get?_insert, hslots, getElem?_concat_eq_some_iff, partsOf_append]
    by_cases hparent : parent = p.parent
    · subst hparent
      have hno : ∀ place : Nat, (slots [] columns)[place]? ≠ some (Slot.nested p.parent) :=
        fun _ hplace => hnew (List.mem_of_getElem? hplace)
      have hparts : partsOf p.parent [c] = [(p.name, p.type)] := by simp [partsOf, hpart]
      rw [if_pos rfl, partsOf_eq_nil List.not_mem_nil hnew, hparts, ← hlength]
      simp [hno, eq_comm]
    · have hparts : partsOf parent [c] = [] := by simp [partsOf, hpart, Ne.symm hparent]
      simp [if_neg hparent, h.get?_iff, hparts, Ne.symm hparent]

theorem Holds.add_later {columns : List ColumnInfo} {s : Folding} {c : ColumnInfo} {p : FlatPart}
    (h : Holds columns s) (hpart : c.flatPart? = some p) {place : Nat}
    (hplace : (slots [] columns)[place]? = some (.nested p.parent)) :
    Holds (columns ++ [c]) (s.add c) := by
  have hslots : slots [] (columns ++ [c]) = slots [] columns := by
    rw [slots_concat_part hpart, if_pos (.inr (List.mem_of_getElem? hplace))]
  have hget : Dict.get? s.nested p.parent = some (place, partsOf p.parent columns) :=
    (h.get?_iff _ _ _).2 ⟨hplace, rfl⟩
  unfold Folding.add
  simp only [hpart, hget]
  refine ⟨?_, Dict.sorted_insert h.sorted _ _, fun parent place' parts => ?_⟩
  · rw [hslots, h.columns_eq]
  · rw [Dict.get?_insert, hslots, partsOf_append]
    by_cases hparent : parent = p.parent
    · subst hparent
      -- No other place is kept for the same nested column.
      have hsame : (slots [] columns)[place']? = some (.nested p.parent) ↔ place = place' := by
        constructor
        · intro hplace'
          have hget' := (h.get?_iff _ _ _).2 ⟨hplace', rfl⟩
          exact congrArg Prod.fst (Option.some.inj (hget.symm.trans hget'))
        · rintro rfl
          exact hplace
      have hparts : partsOf p.parent [c] = [(p.name, p.type)] := by simp [partsOf, hpart]
      simp [hsame, hparts, eq_comm]
    · have hparts : partsOf parent [c] = [] := by simp [partsOf, hpart, Ne.symm hparent]
      rw [if_neg hparent, h.get?_iff, hparts, List.append_nil]

theorem Holds.add {columns : List ColumnInfo} {s : Folding} (h : Holds columns s)
    (c : ColumnInfo) : Holds (columns ++ [c]) (s.add c) := by
  cases hpart : c.flatPart? with
  | none => exact h.add_whole hpart
  | some p =>
    by_cases hplace : .nested p.parent ∈ slots [] columns
    · rcases List.mem_iff_getElem?.1 hplace with ⟨place, hplace⟩
      exact h.add_later hpart hplace
    · exact h.add_first hpart hplace

theorem holds_foldl (columns : List ColumnInfo) : Holds columns (columns.foldl Folding.add {}) := by
  have hrun : ∀ (rest before : List ColumnInfo) (s : Folding), Holds before s →
      Holds (before ++ rest) (rest.foldl Folding.add s) := by
    intro rest
    induction rest with
    | nil =>
      intro before s h
      simpa using h
    | cons c rest ih =>
      intro before s h
      simpa using ih (before ++ [c]) (s.add c) (h.add c)
  simpa using hrun columns [] {} .start

/-- What filling puts at one place, whatever the order in which the places are filled. -/
theorem getElem?_filled {nested : List (String × Nat × List (String × TypeName))} {place : Nat}
    {parts : List (String × TypeName)} (h : ∀ e ∈ nested, e.2.1 = place → e.2.2 = parts)
    (columns : List ColumnInfo) :
    (nested.foldl (fun columns e => fill columns e.2.1 e.2.2) columns)[place]? =
      columns[place]?.map fun c =>
        if ∃ e ∈ nested, e.2.1 = place then { c with type := (TypeName.nested parts).text }
        else c := by
  induction nested generalizing columns with
  | nil => simp
  | cons e rest ih =>
    rw [List.foldl_cons, ih fun d hd => h d (List.mem_cons_of_mem e hd), fill, List.getElem?_modify]
    by_cases hplace : e.2.1 = place
    · have hparts := h e List.mem_cons_self hplace
      cases columns[place]? <;> simp [hplace, hparts]
    · have hrest : (∃ d ∈ e :: rest, d.2.1 = place) ↔ ∃ d ∈ rest, d.2.1 = place := by
        simp [List.mem_cons, hplace]
      simp only [hplace, hrest, if_false, id_map']

theorem Holds.filled_eq {columns : List ColumnInfo} {s : Folding} (h : Holds columns s) :
    s.filled = (slots [] columns).map (Slot.closed columns) := by
  -- An entry is found under its key, and tells which place it is for.
  have hentry : ∀ e ∈ s.nested, (slots [] columns)[e.2.1]? = some (.nested e.1) ∧
      e.2.2 = partsOf e.1 columns := by
    rintro ⟨parent, place, parts⟩ he
    exact (h.get?_iff parent place parts).1 (h.sorted.get?_eq_some_iff.2 he)
  apply List.ext_getElem?
  intro place
  have hcolumn : s.columns[place]? = (slots [] columns)[place]?.map Slot.opened := by
    rw [h.columns_eq, List.getElem?_map]
  rw [filled, List.getElem?_map]
  cases hslot : (slots [] columns)[place]? with
  | none =>
    have hno : ∀ e ∈ s.nested, e.2.1 = place → e.2.2 = [] := by
      rintro e he rfl
      cases hslot.symm.trans (hentry e he).1
    rw [getElem?_filled hno, hcolumn, hslot]
    rfl
  | some slot =>
    cases slot with
    | whole c =>
      have hno : ∀ e ∈ s.nested, e.2.1 ≠ place := by
        rintro e he rfl
        cases hslot.symm.trans (hentry e he).1
      have hparts : ∀ e ∈ s.nested, e.2.1 = place → e.2.2 = [] :=
        fun e he hplace => absurd hplace (hno e he)
      rw [getElem?_filled hparts, hcolumn, hslot]
      simp only [Option.map_some]
      rw [if_neg fun ⟨e, he, hplace⟩ => hno e he hplace]
      rfl
    | nested parent =>
      have hparts : ∀ e ∈ s.nested, e.2.1 = place → e.2.2 = partsOf parent columns := by
        rintro e he rfl
        cases hslot.symm.trans (hentry e he).1
        exact (hentry e he).2
      have hmem : (parent, place, partsOf parent columns) ∈ s.nested :=
        h.sorted.get?_eq_some_iff.1 ((h.get?_iff _ _ _).2 ⟨hslot, rfl⟩)
      rw [getElem?_filled hparts, hcolumn, hslot]
      simp only [Option.map_some]
      rw [if_pos ⟨_, hmem, rfl⟩]
      rfl

end Folding

/-- The pass over the columns puts at each place what the columns give for it. -/
theorem foldColumns_eq_foldRest (columns : List ColumnInfo) :
    foldColumns columns = foldRest columns [] columns := by
  rw [foldColumns, (Folding.holds_foldl columns).filled_eq, foldRest_eq_map_closed]

theorem foldColumns_nil : foldColumns [] = [] :=
  rfl

end ClickHouse
end Ingest
