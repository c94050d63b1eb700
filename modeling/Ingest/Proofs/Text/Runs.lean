import Ingest.Power
import Ingest.Text.Classes
import Ingest.Text.Digits
import Mathlib.Data.List.TakeWhile

/-!
# Runs of characters

A run of characters of one kind ends where another character follows, so that a text which begins
with such a run can be taken apart in one way only (`run_inj`). The blanks at the ends of a text
are runs, and numbers that are filled up with zeros are runs of digits.
-/

namespace Ingest
namespace Text

/-! ## Where runs end -/

/-- A text does not continue a run of characters of a kind. -/
def Ends (p : Char → Bool) (rest : List Char) : Prop :=
  ∀ c ∈ rest.head?, p c = false

section Runs

variable {p : Char → Bool} {run run' rest rest' : List Char}

theorem ends_nil : Ends p [] :=
  nofun

theorem ends_cons {c : Char} (h : p c = false) : Ends p (c :: rest) := by
  intro d hd
  cases hd
  exact h

/-- Characters among which one does not occur are a run of others. -/
theorem run_of_not_mem {c : Char} (h : c ∉ run) : ∀ d ∈ run, (d != c) = true := by
  intro d hd
  have hne : d ≠ c := fun heq => h (heq ▸ hd)
  simpa using hne

theorem takeWhile_run (hrun : ∀ c ∈ run, p c = true) (hrest : Ends p rest) :
    (run ++ rest).takeWhile p = run := by
  rw [List.takeWhile_append_of_pos hrun]
  cases rest with
  | nil => simp
  | cons c rest =>
    have hc : p c = false := hrest c rfl
    simp [hc]

theorem dropWhile_run (hrun : ∀ c ∈ run, p c = true) (hrest : Ends p rest) :
    (run ++ rest).dropWhile p = rest := by
  rw [List.dropWhile_append_of_pos hrun]
  cases rest with
  | nil => rfl
  | cons c rest =>
    have hc : p c = false := hrest c rfl
    simp [hc]

/-- A run and what follows it can be told apart. -/
theorem run_inj (hrun : ∀ c ∈ run, p c = true) (hrun' : ∀ c ∈ run', p c = true)
    (hrest : Ends p rest) (hrest' : Ends p rest') (h : run ++ rest = run' ++ rest') :
    run = run' ∧ rest = rest' := by
  refine ⟨?_, ?_⟩
  · calc
      run = (run ++ rest).takeWhile p := (takeWhile_run hrun hrest).symm
      _ = (run' ++ rest').takeWhile p := by rw [h]
      _ = run' := takeWhile_run hrun' hrest'
  · calc
      rest = (run ++ rest).dropWhile p := (dropWhile_run hrun hrest).symm
      _ = (run' ++ rest').dropWhile p := by rw [h]
      _ = rest' := dropWhile_run hrun' hrest'

end Runs

/-! ## Blanks at the ends -/

/-- A text is another one without the blanks at its ends. -/
structure TrimsTo (s t : String) : Prop where
  blanks : ∃ before after, s.toList = before ++ (t.toList ++ after) ∧
    (∀ c ∈ before, isBlank c = true) ∧ ∀ c ∈ after, isBlank c = true
  front : Ends isBlank t.toList
  back : Ends isBlank t.toList.reverse

theorem ends_dropWhile (p : Char → Bool) (cs : List Char) : Ends p (cs.dropWhile p) := by
  intro c hc
  have hnot := List.head?_dropWhile_not p cs
  rw [hc] at hnot
  simpa using hnot

theorem trimsTo_trimmed (s : String) : TrimsTo s (trimmed s) := by
  let cs := s.toList.dropWhile isBlank
  have htrimmed : (trimmed s).toList = (cs.reverse.dropWhile isBlank).reverse := by
    rw [trimmed, String.toList_ofList]
  have hcs : cs = (trimmed s).toList ++ (cs.reverse.takeWhile isBlank).reverse := by
    rw [htrimmed, ← List.reverse_append, List.takeWhile_append_dropWhile, List.reverse_reverse]
  have hs : s.toList = s.toList.takeWhile isBlank ++ cs := by
    rw [List.takeWhile_append_dropWhile]
  refine ⟨⟨_, _, hs.trans (congrArg _ hcs), ?_, ?_⟩, ?_, ?_⟩
  · exact fun c hc => List.mem_takeWhile_imp hc
  · exact fun c hc => List.mem_takeWhile_imp (List.mem_reverse.1 hc)
  · intro c hc
    apply ends_dropWhile isBlank s.toList
    change c ∈ cs.head?
    rw [hcs, List.head?_append, hc]
    rfl
  · rw [htrimmed, List.reverse_reverse]
    exact ends_dropWhile _ _

theorem TrimsTo.eq_trimmed {s t : String} (h : TrimsTo s t) : t = trimmed s := by
  rcases h.blanks with ⟨before, after, hs, hbefore, hafter⟩
  apply String.toList_injective
  rw [trimmed, String.toList_ofList, hs]
  cases hchars : t.toList with
  | nil =>
    have hblank : ∀ c ∈ before ++ ([] ++ after), isBlank c = true :=
      List.forall_mem_append.2 ⟨hbefore, hafter⟩
    rw [List.dropWhile_eq_nil_iff.2 hblank]
    rfl
  | cons c cs =>
    have hfront : Ends isBlank (c :: cs ++ after) := ends_cons (h.front c (by rw [hchars]; rfl))
    have hback : Ends isBlank (c :: cs).reverse := hchars ▸ h.back
    rw [dropWhile_run hbefore hfront, List.reverse_append,
      dropWhile_run (fun c hc => hafter c (List.mem_reverse.1 hc)) hback, List.reverse_reverse]

/-! ## Numbers filled up with zeros -/

section Padded

variable {width m n : Nat} {rest rest' : List Char}

theorem isDigit_of_mem_digits {c : Char} (h : c ∈ digits n) : isDigit c = true :=
  List.all_eq_true.1 (all_isDigit_digits n) c h

theorem isDigit_of_mem_padded {c : Char} (h : c ∈ padded width n) : isDigit c = true := by
  rcases List.mem_append.1 h with hzero | hdigit
  · rw [List.eq_of_mem_replicate hzero]
    rfl
  · exact isDigit_of_mem_digits hdigit

theorem ofDigits_zeros (count : Nat) (cs : List Char) :
    ofDigits (List.replicate count '0' ++ cs) = ofDigits cs := by
  induction count with
  | zero => rfl
  | succ count ih => exact ih

theorem ofDigits_padded (width n : Nat) : ofDigits (padded width n) = n := by
  rw [padded, ofDigits_zeros, ofDigits_digits]

theorem padded_injective (h : padded width m = padded width n) : m = n := by
  rw [← ofDigits_padded width m, h, ofDigits_padded]

/-- A number is read off a text as far as there are digits. -/
theorem padded_inj (hrest : Ends isDigit rest) (hrest' : Ends isDigit rest')
    (h : padded width m ++ rest = padded width n ++ rest') : m = n ∧ rest = rest' := by
  rcases run_inj (fun _ hc => isDigit_of_mem_padded hc) (fun _ hc => isDigit_of_mem_padded hc)
    hrest hrest' h with ⟨hpadded, hsame⟩
  exact ⟨padded_injective hpadded, hsame⟩

theorem exists_digit_of_padded (width n : Nat) :
    ∃ c cs, padded width n = c :: cs ∧ isDigit c = true := by
  have hne : padded width n ≠ [] := by simp [padded, digits_ne_nil]
  rcases List.exists_cons_of_ne_nil hne with ⟨c, cs, hcs⟩
  exact ⟨c, cs, hcs, isDigit_of_mem_padded (hcs ▸ List.mem_cons_self)⟩

theorem length_digits_le (hwidth : 0 < width) (h : n < pow10 width) :
    (digits n).length ≤ width := by
  induction n using digits.induct generalizing width with
  | case1 n hn =>
    rw [digits, if_pos hn]
    exact hwidth
  | case2 n hn ih =>
    obtain ⟨places, rfl⟩ : ∃ places, width = places + 1 := ⟨width - 1, by omega⟩
    rw [pow10_succ] at h
    -- A number of one place is below ten.
    have hplaces : 0 < places := by
      rcases Nat.eq_zero_or_pos places with rfl | hpos
      · rw [pow10_zero] at h
        omega
      · exact hpos
    have hrest := ih hplaces (by omega)
    rw [digits, if_neg hn, List.length_append, List.length_singleton]
    omega

theorem length_padded (hwidth : 0 < width) (h : n < pow10 width) :
    (padded width n).length = width := by
  have hdigits := length_digits_le hwidth h
  rw [padded, List.length_append, List.length_replicate]
  omega

end Padded

end Text
end Ingest
