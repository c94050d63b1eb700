import Ingest.Calendar.Instant
import Ingest.Proofs.Text.Runs

/-!
# Texts of clocks

A date, a time of day and a fraction follow each other in the text of a clock, and each of their
numbers can be read off it again. So clocks that show the same text show the same
(`WallClock.text_inj`), as long as none of them shows a leap second, which looks like the second
after the next full minute where offsets are not whole minutes.
-/

namespace Ingest
namespace Calendar

/-! ## Dates -/

section Dates

variable {rest rest' : List Char}

/-- A year is read off a text as far as there are digits. -/
theorem yearText_inj {y y' : Int} (hrest : Text.Ends Text.isDigit rest)
    (hrest' : Text.Ends Text.isDigit rest') (h : yearText y ++ rest = yearText y' ++ rest') :
    y = y' ∧ rest = rest' := by
  -- A text begins with a digit, or with a sign outside the four-digit years.
  have hsign : ∀ (n m : Nat) (negative : Prop) [Decidable negative] {r r' : List Char},
      Text.padded 4 n ++ r ≠ (if negative then '-' else '+') :: Text.padded 4 m ++ r' := by
    intro n m negative _ r r' heq
    rcases Text.exists_digit_of_padded 4 n with ⟨c, cs, hcs, hdigit⟩
    rw [hcs] at heq
    have hc : c = if negative then '-' else '+' := (List.cons.inj heq).1
    rw [hc] at hdigit
    split at hdigit <;> exact absurd hdigit (by decide)
  unfold yearText at h
  by_cases hy : (decide (0 ≤ y) && decide (y ≤ 9999)) = true <;>
    by_cases hy' : (decide (0 ≤ y') && decide (y' ≤ 9999)) = true <;>
    simp only [hy, hy', if_true, Bool.false_eq_true, if_false] at h
  · rcases Text.padded_inj hrest hrest' h with ⟨habs, hsame⟩
    simp only [Bool.and_eq_true, decide_eq_true_eq] at hy hy'
    exact ⟨by omega, hsame⟩
  · exact absurd h (hsign _ _ _)
  · exact absurd h.symm (hsign _ _ _)
  · rcases List.cons.inj h with ⟨hminus, h⟩
    rcases Text.padded_inj hrest hrest' h with ⟨habs, hsame⟩
    -- The years have the same sign and the same distance from zero.
    have hnegative : y < 0 ↔ y' < 0 := by
      constructor
      · intro hneg
        by_contra hneg'
        rw [if_pos hneg, if_neg hneg'] at hminus
        exact absurd hminus (by decide)
      · intro hneg'
        by_contra hneg
        rw [if_neg hneg, if_pos hneg'] at hminus
        exact absurd hminus (by decide)
    exact ⟨by omega, hsame⟩

theorem Civil.text_inj {c c' : Civil} (hrest : Text.Ends Text.isDigit rest)
    (hrest' : Text.Ends Text.isDigit rest') (h : c.text ++ rest = c'.text ++ rest') :
    c = c' ∧ rest = rest' := by
  have hdash : ∀ r, Text.Ends Text.isDigit ('-' :: r) := fun r => Text.ends_cons (by decide)
  rcases c with ⟨y, m, d⟩
  rcases c' with ⟨y', m', d'⟩
  simp only [Civil.text, List.append_assoc, List.cons_append] at h
  rcases yearText_inj (hdash _) (hdash _) h with ⟨rfl, hmonth⟩
  rcases Text.padded_inj (hdash _) (hdash _) (List.cons.inj hmonth).2 with ⟨rfl, hday⟩
  rcases Text.padded_inj hrest hrest' (List.cons.inj hday).2 with ⟨rfl, hsame⟩
  exact ⟨rfl, hsame⟩

end Dates

/-! ## Clocks -/

namespace WallClock

/-- A clock that shows a second of the day, and no leap second. -/
structure Regular (w : WallClock) : Prop where
  nonneg : 0 ≤ w.second
  lt_day : w.second < secondsPerDay
  nanos_lt : w.nanos < nanosPerSecond

/-- What a clock shows, written out. -/
def text (w : WallClock) : List Char :=
  w.dateText ++ ' ' :: w.timeText ++ w.fractionText

theorem regular_ofSeconds (s : Int) {nanos : Nat} (h : nanos < nanosPerSecond) :
    (ofSeconds s nanos).Regular := by
  have hpos : (0 : Int) < secondsPerDay := by decide
  exact ⟨Int.emod_nonneg s (Int.ne_of_gt hpos), Int.emod_lt_of_pos s hpos, h⟩

/-- The moment that a clock shows is its second and its fraction. -/
theorem ofSeconds_inj {s s' : Int} {nanos nanos' : Nat} :
    ofSeconds s nanos = ofSeconds s' nanos' ↔ s = s' ∧ nanos = nanos' := by
  constructor
  · intro h
    rcases WallClock.mk.inj h with ⟨hday, hsecond, hnanos⟩
    refine ⟨?_, hnanos⟩
    calc
      s = secondsPerDay * (s / secondsPerDay) + s % secondsPerDay :=
        (Int.mul_ediv_add_emod s secondsPerDay).symm
      _ = secondsPerDay * (s' / secondsPerDay) + s' % secondsPerDay := by rw [hday, hsecond]
      _ = s' := Int.mul_ediv_add_emod s' secondsPerDay
  · rintro ⟨rfl, rfl⟩
    rfl

variable {w w' : WallClock} {rest rest' : List Char}

theorem dateText_inj (hrest : Text.Ends Text.isDigit rest) (hrest' : Text.Ends Text.isDigit rest')
    (h : w.dateText ++ rest = w'.dateText ++ rest') : w.day = w'.day ∧ rest = rest' := by
  rcases Civil.text_inj hrest hrest' h with ⟨hcivil, hsame⟩
  exact ⟨Civil.ofDays_injective hcivil, hsame⟩

theorem timeText_inj (hw : w.Regular) (hw' : w'.Regular) (hrest : Text.Ends Text.isDigit rest)
    (hrest' : Text.Ends Text.isDigit rest') (h : w.timeText ++ rest = w'.timeText ++ rest') :
    w.second = w'.second ∧ rest = rest' := by
  have hcolon : ∀ r, Text.Ends Text.isDigit (':' :: r) := fun r => Text.ends_cons (by decide)
  simp only [timeText, List.append_assoc, List.cons_append] at h
  rcases Text.padded_inj (hcolon _) (hcolon _) h with ⟨hhour, h⟩
  rcases Text.padded_inj (hcolon _) (hcolon _) (List.cons.inj h).2 with ⟨hminute, h⟩
  rcases Text.padded_inj hrest hrest' (List.cons.inj h).2 with ⟨hsecond, h⟩
  refine ⟨?_, h⟩
  -- Without a leap second the second that is shown is that of the minute.
  have hshown : w.shownSecond = (w.second % 60).toNat := by
    rw [shownSecond, Nat.div_eq_of_lt hw.nanos_lt, Nat.add_zero]
  have hshown' : w'.shownSecond = (w'.second % 60).toNat := by
    rw [shownSecond, Nat.div_eq_of_lt hw'.nanos_lt, Nat.add_zero]
  rw [hshown, hshown'] at hsecond
  have hnonneg := hw.nonneg
  have hnonneg' := hw'.nonneg
  omega

/-- A fraction has no text if it is zero, and else a point and 3, 6 or 9 places. -/
theorem fractionText_cases (h : w.nanos < nanosPerSecond) :
    w.nanos = 0 ∧ w.fractionText = [] ∨
      ∃ places n, 0 < places ∧ n < pow10 places ∧ w.nanos = n * pow10 (9 - places) ∧
        w.fractionText = '.' :: Text.padded places n := by
  have hnanos : w.nanos < 1000000000 := h
  unfold fractionText
  rw [Nat.mod_eq_of_lt h]
  simp only [beq_iff_eq]
  split
  · rename_i hzero
    exact .inl ⟨hzero, rfl⟩
  · split
    · rename_i hmillis
      have hplaces : pow10 3 = 1000 := rfl
      have hunit : pow10 (9 - 3) = 1000000 := rfl
      refine .inr ⟨3, w.nanos / 1000000, by decide, by omega, ?_, rfl⟩
      rw [hunit]
      omega
    · split
      · rename_i hmicros
        have hplaces : pow10 6 = 1000000 := rfl
        have hunit : pow10 (9 - 6) = 1000 := rfl
        refine .inr ⟨6, w.nanos / 1000, by decide, by omega, ?_, rfl⟩
        rw [hunit]
        omega
      · exact .inr ⟨9, w.nanos, by decide, hnanos, (Nat.mul_one w.nanos).symm, rfl⟩

theorem ends_fractionText (w : WallClock) : Text.Ends Text.isDigit w.fractionText := by
  unfold fractionText
  simp only
  split
  · exact Text.ends_nil
  · split
    · exact Text.ends_cons (by decide)
    · split <;> exact Text.ends_cons (by decide)

theorem fractionText_inj (hw : w.nanos < nanosPerSecond) (hw' : w'.nanos < nanosPerSecond)
    (h : w.fractionText = w'.fractionText) : w.nanos = w'.nanos := by
  rcases fractionText_cases hw with ⟨hzero, htext⟩ | ⟨places, n, hplaces, hn, hnanos, htext⟩ <;>
    rcases fractionText_cases hw' with
      ⟨hzero', htext'⟩ | ⟨places', n', hplaces', hn', hnanos', htext'⟩ <;>
    rw [htext, htext'] at h
  · rw [hzero, hzero']
  · cases h
  · cases h
  · have hdigits := (List.cons.inj h).2
    -- The number of places is that of the digits.
    have hsame : places = places' := by
      rw [← Text.length_padded hplaces hn, hdigits, Text.length_padded hplaces' hn']
    subst hsame
    rw [hnanos, hnanos', Text.padded_injective hdigits]

/-- Clocks that show the same text show the same day, second and fraction. -/
theorem text_inj (hw : w.Regular) (hw' : w'.Regular) : w.text = w'.text ↔ w = w' := by
  constructor
  · intro h
    have hblank : ∀ r, Text.Ends Text.isDigit (' ' :: r) := fun r => Text.ends_cons (by decide)
    simp only [text, List.append_assoc, List.cons_append] at h
    rcases dateText_inj (hblank _) (hblank _) h with ⟨hday, h⟩
    rcases timeText_inj hw hw' (ends_fractionText w) (ends_fractionText w')
      (List.cons.inj h).2 with ⟨hsecond, h⟩
    have hnanos := fractionText_inj hw.nanos_lt hw'.nanos_lt h
    rcases w with ⟨day, second, nanos⟩
    rcases w' with ⟨day', second', nanos'⟩
    rw [WallClock.mk.injEq]
    exact ⟨hday, hsecond, hnanos⟩
  · rintro rfl
    rfl

end WallClock

/-- An instant is its second and its fraction. -/
theorem Instant.eq_of_seconds {t t' : Instant} (hseconds : t.seconds = t'.seconds)
    (hnanos : t.nanos = t'.nanos) : t = t' := by
  rcases t with ⟨seconds, nanos⟩
  rcases t' with ⟨seconds', nanos'⟩
  cases hseconds
  cases hnanos
  rfl

end Calendar
end Ingest
