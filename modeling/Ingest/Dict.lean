/-!
# Entries by key

Entries under distinct string keys are kept in a list in increasing order of the keys. `insert`
keeps the order and replaces the entry of a key that is present; `get?` looks an entry up.
-/

namespace Ingest
namespace Dict

variable {α : Type}

/-- The keys increase from entry to entry, so no key occurs twice. -/
def Sorted (d : List (String × α)) : Prop :=
  d.Pairwise fun a b => a.1 < b.1

def get? : List (String × α) → String → Option α
  | [], _ => none
  | (k, v) :: rest, key => if k = key then some v else get? rest key

/-- Puts an entry under a key, in place of the one that was there. -/
def insert : List (String × α) → String → α → List (String × α)
  | [], key, value => [(key, value)]
  | (k, v) :: rest, key, value =>
    if key < k then (key, value) :: (k, v) :: rest
    else if key = k then (key, value) :: rest
    else (k, v) :: insert rest key value

def erase (d : List (String × α)) (key : String) : List (String × α) :=
  d.filter fun e => e.1 != key

/-- Puts the entries of a list in order; of two under one key the later stays. -/
def ofList (entries : List (String × α)) : List (String × α) :=
  entries.foldl (fun d e => insert d e.1 e.2) []

/-- Puts all entries of the second into the first. -/
def merge (d other : List (String × α)) : List (String × α) :=
  other.foldl (fun d e => insert d e.1 e.2) d

theorem lt_of_not_lt_of_ne {a b : String} (h : ¬ a < b) (hne : a ≠ b) : b < a :=
  Std.lt_of_le_of_ne (String.not_lt.1 h) (Ne.symm hne)

theorem mem_insert {d : List (String × α)} {key : String} {value : α} {e : String × α}
    (h : e ∈ insert d key value) : e = (key, value) ∨ e ∈ d := by
  induction d with
  | nil => simpa [insert] using h
  | cons a rest ih =>
    obtain ⟨k, v⟩ := a
    unfold insert at h
    split at h
    · simpa using h
    · split at h
      · rcases List.mem_cons.1 h with h | h
        · exact .inl h
        · exact .inr (List.mem_cons_of_mem _ h)
      · rcases List.mem_cons.1 h with h | h
        · exact .inr (h ▸ List.mem_cons_self)
        · exact (ih h).imp_right (List.mem_cons_of_mem _)

theorem sorted_insert {d : List (String × α)} (hd : Sorted d) (key : String) (value : α) :
    Sorted (insert d key value) := by
  induction d with
  | nil => simp [insert, Sorted]
  | cons a rest ih =>
    obtain ⟨k, v⟩ := a
    obtain ⟨hk, hrest⟩ := List.pairwise_cons.1 hd
    unfold insert
    split
    · rename_i hlt
      refine List.pairwise_cons.2 ⟨?_, hd⟩
      intro e he
      rcases List.mem_cons.1 he with rfl | he
      · exact hlt
      · exact String.lt_trans hlt (hk e he)
    · rename_i hlt
      split
      · rename_i heq
        subst heq
        exact List.pairwise_cons.2 ⟨hk, hrest⟩
      · rename_i hne
        refine List.pairwise_cons.2 ⟨?_, ih hrest⟩
        intro e he
        rcases mem_insert he with rfl | he
        · exact lt_of_not_lt_of_ne hlt hne
        · exact hk e he

theorem sorted_erase {d : List (String × α)} (hd : Sorted d) (key : String) :
    Sorted (erase d key) :=
  List.Pairwise.filter _ hd

theorem sorted_merge {d : List (String × α)} (hd : Sorted d) (other : List (String × α)) :
    Sorted (merge d other) := by
  induction other generalizing d with
  | nil => exact hd
  | cons e rest ih => exact ih (sorted_insert hd e.1 e.2)

theorem sorted_ofList (entries : List (String × α)) : Sorted (ofList entries) :=
  sorted_merge List.Pairwise.nil entries

theorem get?_insert (d : List (String × α)) (key : String) (value : α) (k : String) :
    get? (insert d key value) k = if k = key then some value else get? d k := by
  induction d with
  | nil => simp [insert, get?, eq_comm]
  | cons a rest ih =>
    obtain ⟨k', v'⟩ := a
    unfold insert
    split
    · simp [get?, eq_comm]
    · split
      · rename_i heq
        subst heq
        by_cases hk : key = k <;> simp [get?, hk, eq_comm]
      · rename_i hne
        simp only [get?, ih]
        by_cases hk : k' = k
        · subst hk
          simp [Ne.symm hne]
        · simp [hk]

/-- Taking out an entry leaves the others to be found. -/
theorem get?_erase_of_ne {key k : String} (h : k ≠ key) (d : List (String × α)) :
    get? (erase d key) k = get? d k := by
  induction d with
  | nil => rfl
  | cons a rest ih =>
    obtain ⟨k', v⟩ := a
    by_cases hkey : k' = key
    · have herase : erase ((k', v) :: rest) key = erase rest key := by simp [erase, hkey]
      have hne : k' ≠ k := fun hk => h (hk.symm.trans hkey)
      rw [herase, ih, get?, if_neg hne]
    · have herase : erase ((k', v) :: rest) key = (k', v) :: erase rest key := by
        simp [erase, hkey]
      rw [herase, get?, get?, ih]

theorem get?_merge_of_not_mem {other : List (String × α)} {key : String}
    (h : key ∉ other.map (·.1)) (d : List (String × α)) :
    get? (merge d other) key = get? d key := by
  induction other generalizing d with
  | nil => rfl
  | cons e rest ih =>
    simp only [List.map_cons, List.mem_cons, not_or] at h
    calc
      get? (merge d (e :: rest)) key
          = get? (insert d e.1 e.2) key := ih h.2 _
      _ = get? d key := by rw [get?_insert, if_neg h.1]

/-- Each of several entries under distinct keys is found again. -/
theorem get?_ofList_of_mem {entries : List (String × α)} (h : (entries.map (·.1)).Nodup)
    {e : String × α} (he : e ∈ entries) : get? (ofList entries) e.1 = some e.2 := by
  have hmerge : ∀ d, get? (merge d entries) e.1 = some e.2 := by
    induction entries with
    | nil => cases he
    | cons a rest ih =>
      intro d
      rw [List.map_cons, List.nodup_cons] at h
      rcases List.mem_cons.1 he with rfl | he
      · calc
          get? (merge d (e :: rest)) e.1
              = get? (insert d e.1 e.2) e.1 := get?_merge_of_not_mem h.1 _
          _ = some e.2 := by rw [get?_insert, if_pos rfl]
      · exact ih h.2 he _
  exact hmerge []

end Dict
end Ingest
