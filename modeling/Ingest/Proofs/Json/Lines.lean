import Ingest.Json.Basic
import Ingest.Proofs.Text.Runs
import Mathlib.Tactic.SplitIfs

/-!
# JSON texts on one line

The compact text of a value has no line feed: digits, signs and punctuation are none, and in texts
it is escaped. Main statement: `Json.newline_not_mem_chars`.
-/

namespace Ingest

/-! ## Numbers -/

namespace Text

theorem ne_newline_of_isDigit {c : Char} (h : isDigit c = true) : c ≠ '\n' := by
  rintro rfl
  exact absurd h (by decide)

theorem newline_not_mem_digits (n : Nat) : '\n' ∉ digits n := by
  intro h
  exact ne_newline_of_isDigit (isDigit_of_mem_digits h) rfl

theorem newline_not_mem_integer (n : Int) : '\n' ∉ integer n := by
  unfold integer
  split
  · simp [newline_not_mem_digits]
  · exact newline_not_mem_digits _

/-- A line and what follows it can be told apart. -/
theorem line_inj {xs ys rest rest' : List Char} (hx : '\n' ∉ xs) (hy : '\n' ∉ ys)
    (h : xs ++ '\n' :: rest = ys ++ '\n' :: rest') : xs = ys ∧ rest = rest' := by
  have hend : ∀ rest, Ends (· != '\n') ('\n' :: rest) := fun _ => ends_cons (by decide)
  rcases run_inj (run_of_not_mem hx) (run_of_not_mem hy) (hend rest) (hend rest') h with
    ⟨hline, hrest⟩
  exact ⟨hline, (List.cons.inj hrest).2⟩

end Text

namespace Decimal

theorem newline_not_mem_sign (d : Decimal) : '\n' ∉ d.sign := by
  unfold sign
  split
  · decide
  · exact List.not_mem_nil

theorem newline_not_mem_parts (d : Decimal) : '\n' ∉ d.parts.1 ∧ '\n' ∉ d.parts.2 := by
  have hdigits := Text.newline_not_mem_digits d.digits
  have hzeros : ∀ n, '\n' ∉ List.replicate n '0' := by
    intro n h
    exact absurd (List.eq_of_mem_replicate h) (by decide)
  -- The point stands behind the digits, among them or in front of them.
  unfold parts
  simp only
  split
  · simp [hdigits, hzeros]
  · split
    · exact ⟨fun h => hdigits (List.mem_of_mem_take h), fun h => hdigits (List.mem_of_mem_drop h)⟩
    · refine ⟨by simp, ?_⟩
      rw [List.mem_append]
      rintro (h | h)
      · exact hzeros _ h
      · exact hdigits h

theorem newline_not_mem_pointed (d : Decimal) : '\n' ∉ d.pointed := by
  have hsign := newline_not_mem_sign d
  have hparts := newline_not_mem_parts d
  unfold pointed
  split
  · rename_i whole h
    rw [h] at hparts
    simp [hsign, hparts.1]
  · rename_i whole fraction _ h
    rw [h] at hparts
    simp [hsign, hparts.1, hparts.2]

theorem newline_not_mem_exponential (d : Decimal) : '\n' ∉ d.exponential := by
  have hsign := newline_not_mem_sign d
  have hdigits := Text.newline_not_mem_digits d.digits
  have hleading := Text.newline_not_mem_integer d.leading
  have hplus : '\n' ∉ (if 0 ≤ d.leading then ['+'] else [] : List Char) := by
    split
    · decide
    · exact List.not_mem_nil
  unfold exponential
  simp only
  split
  · exact List.not_mem_nil
  · rename_i c h
    rw [h] at hdigits
    simp_all
  · rename_i c cs _ h
    rw [h] at hdigits
    simp_all

theorem newline_not_mem_styled (style : Style) (d : Decimal) : '\n' ∉ d.styled style := by
  unfold styled
  split
  · exact newline_not_mem_pointed d
  · split
    · exact newline_not_mem_pointed d
    · exact newline_not_mem_exponential d

end Decimal

/-! ## Texts and values -/

namespace Json

theorem newline_not_mem_escaped (c : Char) : '\n' ∉ escaped c := by
  have hdigit : ∀ n, '\n' ≠ Nat.digitChar n := by
    intro n
    exact (Nat.digitChar_ne '\n' (by decide)).symm
  -- A line feed is escaped; every other character is, or stands for itself.
  by_cases hc : c = '\n'
  · rw [hc]
    decide
  · have hother : '\n' ∉ [c] := by
      simpa using Ne.symm hc
    unfold escaped
    split_ifs
    iterate 7 decide
    · simp [hdigit]
    · exact hother

theorem newline_not_mem_stringText (s : String) : '\n' ∉ stringText s := by
  simp [stringText, newline_not_mem_escaped]

mutual

/-- The compact text of a value stands on one line. -/
theorem newline_not_mem_chars : (j : Json) → '\n' ∉ j.chars
  | null => by simp [chars]
  | bool b => by cases b <;> simp [chars]
  | int n => by
    rw [chars]
    exact Text.newline_not_mem_integer n
  | decimal style d => by
    rw [chars]
    exact Decimal.newline_not_mem_styled style d
  | string s => by
    rw [chars]
    exact newline_not_mem_stringText s
  | array items => by
    have hitems := newline_not_mem_itemChars items
    simp [chars, hitems]
  | object members => by
    have hmembers := newline_not_mem_memberChars members
    simp [chars, hmembers]

theorem newline_not_mem_itemChars : (items : List Json) → '\n' ∉ itemChars items
  | [] => by simp [itemChars]
  | [item] => by
    rw [itemChars]
    exact newline_not_mem_chars item
  | item :: next :: rest => by
    have hitem := newline_not_mem_chars item
    have hrest := newline_not_mem_itemChars (next :: rest)
    simp [itemChars, hitem, hrest]

theorem newline_not_mem_memberChars : (members : List (String × Json)) → '\n' ∉ memberChars members
  | [] => by simp [memberChars]
  | [(key, value)] => by
    have hkey := newline_not_mem_stringText key
    have hvalue := newline_not_mem_chars value
    simp [memberChars, hkey, hvalue]
  | (key, value) :: next :: rest => by
    have hkey := newline_not_mem_stringText key
    have hvalue := newline_not_mem_chars value
    have hrest := newline_not_mem_memberChars (next :: rest)
    simp [memberChars, hkey, hvalue, hrest]

end

theorem newline_not_mem_text (j : Json) : '\n' ∉ j.text.toList := by
  rw [text, String.toList_ofList]
  exact newline_not_mem_chars j

end Json
end Ingest
