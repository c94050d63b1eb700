import Ingest.Text.Digits

/-!
# Civil dates

Days are counted from 1970-01-01 in the proleptic Gregorian calendar. `Civil.ofDays` gives the
year, month and day of a day number and `Civil.toDays` counts back. Main statement:
`toDays_ofDays`, so different days have different civil dates.
-/

namespace Ingest
namespace Calendar

/-- A year, a month from 1 to 12 and a day of the month from 1. -/
structure Civil where
  year : Int
  month : Nat
  day : Nat
  deriving DecidableEq, Repr

/-- A year of the Gregorian calendar with 29 days in February. -/
def isLeapYear (y : Int) : Bool :=
  y % 4 == 0 && (y % 100 != 0 || y % 400 == 0)

def daysInMonth (y : Int) (month : Nat) : Nat :=
  match month with
  | 1 | 3 | 5 | 7 | 8 | 10 | 12 => 31
  | 4 | 6 | 9 | 11 => 30
  | 2 => if isLeapYear y then 29 else 28
  | _ => 0

namespace Civil

def valid (c : Civil) : Bool :=
  1 ≤ c.day && c.day ≤ daysInMonth c.year c.month

/-! ## Counting days

While counting, years begin in March, so that the leap day comes last, and 400 years, an era of
146097 days, repeat. Months are numbered from 0 for March. -/

def startOfYear (y : Int) : Int :=
  365 * y + y / 4 - y / 100

def startOfMonth (s : Int) : Int :=
  (153 * s + 2) / 5

/-- The year of an era that holds a day of it: the leap day of a century, of four years and of a
single year is the last day and belongs to the year before. -/
def yearOfEra (d : Int) : Int :=
  let century := min (d / 36524) 3
  let inCentury := d - 36524 * century
  let quad := min (inCentury / 1461) 24
  let inQuad := inCentury - 1461 * quad
  100 * century + 4 * quad + min (inQuad / 365) 3

def monthOfYear (r : Int) : Int :=
  (5 * r + 2) / 153

/-- The day number of a year, month and day counted from March. -/
def countDays (y s k : Int) : Int :=
  y / 400 * 146097 + startOfYear (y % 400) + startOfMonth s + k - 1 - 719468

def toDays (c : Civil) : Int :=
  if c.month ≤ 2 then countDays (c.year - 1) (c.month + 9) c.day
  else countDays c.year (c.month - 3) c.day

/-- The civil date of a year, month and day counted from March. -/
def ofMarch (y s k : Int) : Civil :=
  if s < 10 then ⟨y, (s + 3).toNat, k.toNat⟩ else ⟨y + 1, (s - 9).toNat, k.toNat⟩

def ofDays (n : Int) : Civil :=
  let d := (n + 719468) % 146097
  let y := yearOfEra d
  let r := d - startOfYear y
  let s := monthOfYear r
  ofMarch (y + (n + 719468) / 146097 * 400) s (r - startOfMonth s + 1)

theorem toDays_ofMarch {y s k : Int} (hs0 : 0 ≤ s) (hs1 : s ≤ 11) (hk : 0 ≤ k) :
    (ofMarch y s k).toDays = countDays y s k := by
  unfold ofMarch toDays
  split
  · have hm : ¬ (s + 3).toNat ≤ 2 := by omega
    simp only [if_neg hm]
    congr 1 <;> omega
  · have hm : (s - 9).toNat ≤ 2 := by omega
    simp only [if_pos hm]
    congr 1 <;> omega

theorem startOfYear_eq {c q y : Int} (hq0 : 0 ≤ q) (hq1 : q ≤ 24) (hy0 : 0 ≤ y)
    (hy1 : y ≤ 3) : startOfYear (100 * c + 4 * q + y) = 36524 * c + 1461 * q + 365 * y := by
  unfold startOfYear
  omega

theorem yearOfEra_bounds {d : Int} (h0 : 0 ≤ d) (h1 : d < 146097) :
    0 ≤ yearOfEra d ∧ yearOfEra d < 400 := by
  simp only [yearOfEra]
  omega

theorem dayOfYear_bounds {d : Int} (h0 : 0 ≤ d) (h1 : d < 146097) :
    0 ≤ d - startOfYear (yearOfEra d) ∧ d - startOfYear (yearOfEra d) ≤ 365 := by
  simp only [yearOfEra]
  rw [startOfYear_eq (by omega) (by omega) (by omega) (by omega)]
  omega

theorem monthOfYear_bounds {r : Int} (h0 : 0 ≤ r) (h1 : r ≤ 365) :
    0 ≤ monthOfYear r ∧ monthOfYear r ≤ 11 ∧ startOfMonth (monthOfYear r) ≤ r := by
  unfold startOfMonth monthOfYear
  omega

theorem toDays_ofDays (n : Int) : (ofDays n).toDays = n := by
  unfold ofDays
  have hd0 : 0 ≤ (n + 719468) % 146097 := by omega
  have hd1 : (n + 719468) % 146097 < 146097 := by omega
  obtain ⟨hy0, hy1⟩ := yearOfEra_bounds hd0 hd1
  obtain ⟨hr0, hr1⟩ := dayOfYear_bounds hd0 hd1
  obtain ⟨hs0, hs1, hs2⟩ := monthOfYear_bounds hr0 hr1
  rw [toDays_ofMarch hs0 hs1 (by omega)]
  unfold countDays
  generalize hy : yearOfEra ((n + 719468) % 146097) = y at *
  -- Era and year of the era come back from the year that they make up.
  have hera : (y + (n + 719468) / 146097 * 400) / 400 = (n + 719468) / 146097 := by omega
  have hyear : (y + (n + 719468) / 146097 * 400) % 400 = y := by omega
  rw [hera, hyear]
  omega

theorem ofDays_injective {m n : Int} (h : ofDays m = ofDays n) : m = n := by
  rw [← toDays_ofDays m, h, toDays_ofDays n]

end Civil

/-- A year as text: four digits, and an explicit sign outside the years 0 to 9999. -/
def yearText (y : Int) : List Char :=
  if 0 ≤ y && y ≤ 9999 then Text.padded 4 y.natAbs
  else (if y < 0 then '-' else '+') :: Text.padded 4 y.natAbs

def Civil.text (c : Civil) : List Char :=
  yearText c.year ++ '-' :: Text.padded 2 c.month ++ '-' :: Text.padded 2 c.day

end Calendar
end Ingest
