import Ingest.Dict

/-!
# Entries in some order

Keys that no entry has can be put anywhere, so that entries under distinct keys are only put in
order by `ofList`, and entries that are in order stay as they are.
-/

namespace Ingest
namespace Dict

open scoped List

variable {α : Type}

theorem Sorted.nodup_keys {d : List (String × α)} (h : Sorted d) : (d.map (·.1)).Nodup := by
  refine List.pairwise_map.2 (h.imp ?_)
  intro a b hlt heq
  exact String.lt_irrefl _ (heq ▸ hlt)

theorem get?_eq_none_of_not_mem {d : List (String × α)} {key : String}
    (h : key ∉ d.map (·.1)) : get? d key = none := by
  induction d with
  | nil => rfl
  | cons e rest ih =>
    rcases e with ⟨k, v⟩
    simp only [List.map_cons, List.mem_cons, not_or] at h
    rw [get?, if_neg (Ne.symm h.1), ih h.2]

theorem perm_insert_of_not_mem {d : List (String × α)} {key : String}
    (h : key ∉ d.map (·.1)) (value : α) : (insert d key value).Perm ((key, value) :: d) := by
  induction d with
  | nil => exact .refl _
  | cons e rest ih =>
    rcases e with ⟨k, v⟩
    simp only [List.map_cons, List.mem_cons, not_or] at h
    rw [insert]
    split
    · exact .refl _
    · rw [if_neg h.1]
      exact ((ih h.2).cons _).trans (.swap _ _ _)

theorem mem_of_get?_merge {d other : List (String × α)} {key : String} {value : α}
    (h : get? (merge d other) key = some value) :
    get? d key = some value ∨ (key, value) ∈ other := by
  induction other generalizing d with
  | nil => exact .inl h
  | cons e rest ih =>
    rcases ih (d := insert d e.1 e.2) h with hinsert | hrest
    · rw [get?_insert] at hinsert
      split at hinsert
      · rename_i hkey
        cases hinsert
        exact .inr (hkey ▸ List.mem_cons_self)
      · exact .inl hinsert
    · exact .inr (List.mem_cons_of_mem _ hrest)

/-- What is found in entries that were put in order is one of them. -/
theorem mem_of_get?_ofList {entries : List (String × α)} {key : String} {value : α}
    (h : get? (ofList entries) key = some value) : (key, value) ∈ entries :=
  (mem_of_get?_merge (d := []) h).resolve_left (by simp [get?])

theorem get?_erase_self (d : List (String × α)) (key : String) : get? (erase d key) key = none := by
  induction d with
  | nil => rfl
  | cons e rest ih =>
    rcases e with ⟨k, v⟩
    by_cases hk : k = key
    · have herase : erase ((k, v) :: rest) key = erase rest key := by simp [erase, hk]
      rw [herase, ih]
    · have herase : erase ((k, v) :: rest) key = (k, v) :: erase rest key := by
        simp [erase, hk]
      rw [herase, get?, if_neg hk, ih]

/-- Entries under distinct keys that are not there yet are added to those that are. -/
theorem perm_merge {d other : List (String × α)}
    (h : ((d ++ other).map (·.1)).Nodup) : (merge d other).Perm (d ++ other) := by
  induction other generalizing d with
  | nil => rw [List.append_nil]; exact .refl _
  | cons e rest ih =>
    -- The first entry is new to `d`, and the others are new to what it leaves.
    have hshift : (e :: d ++ rest).Perm (d ++ e :: rest) := List.perm_middle.symm
    have hnodup : ((e :: d ++ rest).map (·.1)).Nodup :=
      (hshift.map (·.1)).nodup_iff.2 h
    have hnew : e.1 ∉ d.map (·.1) := by
      rw [List.cons_append, List.map_cons, List.nodup_cons, List.map_append] at hnodup
      exact fun hmem => hnodup.1 (List.mem_append_left _ hmem)
    have hinsert : (insert d e.1 e.2).Perm (e :: d) := perm_insert_of_not_mem hnew e.2
    have hrest : (insert d e.1 e.2 ++ rest).Perm (e :: d ++ rest) := hinsert.append_right rest
    calc
      merge d (e :: rest)
          ~ insert d e.1 e.2 ++ rest := ih ((hrest.map (·.1)).nodup_iff.2 hnodup)
      _ ~ e :: d ++ rest := hrest
      _ ~ d ++ e :: rest := hshift

/-- Entries under distinct keys are put in order. -/
theorem perm_ofList {entries : List (String × α)} (h : (entries.map (·.1)).Nodup) :
    (ofList entries).Perm entries :=
  perm_merge (d := []) h

/-- Entries in order stay in their order. -/
theorem Sorted.ofList_eq {d : List (String × α)} (h : Sorted d) : ofList d = d := by
  have hperm : (ofList d).Perm d := perm_ofList h.nodup_keys
  -- Both lists are in order, and no two entries come before each other.
  apply hperm.eq_of_pairwise _ (sorted_ofList d) h
  intro a b _ _ hab hba
  exact absurd (String.lt_trans hab hba) (String.lt_irrefl a.1)

/-- The entries in order are those that are found. -/
theorem Sorted.get?_eq_some_iff {d : List (String × α)} (h : Sorted d) {key : String} {value : α} :
    get? d key = some value ↔ (key, value) ∈ d := by
  rw [← h.ofList_eq]
  constructor
  · intro hget
    rw [h.ofList_eq]
    exact mem_of_get?_ofList hget
  · intro hmem
    rw [h.ofList_eq] at hmem
    exact get?_ofList_of_mem h.nodup_keys hmem

end Dict
end Ingest
