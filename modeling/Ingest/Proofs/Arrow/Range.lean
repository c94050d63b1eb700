import Ingest.Arrow.Batch

/-!
# Counts within the calendar

Arrow stores a date as a number of days and a timestamp as a number of units since the epoch. The
calendar does not reach as far as these numbers do. A count within the calendar becomes exactly the
date or the instant that it counts to, and any other is refused: adding up days in 32 bits loses no
date (`ofOrdinal?_checkedAdd`), and a count of nanoseconds never leaves the calendar
(`hasMoment_nanosecond`).
-/

namespace Ingest
namespace Arrow

open Calendar

/-- The calendar has the day of a day count. -/
def HasDay (days : Int) : Prop :=
  firstDay ≤ days ∧ days ≤ lastDay

/-- The calendar has the day on which the moment of a number of units falls. -/
def HasMoment (unit : TimeUnit) (count : Int) : Prop :=
  HasDay (count / (secondsPerDay * pow10 unit.precision))

instance (days : Int) : Decidable (HasDay days) :=
  inferInstanceAs (Decidable (_ ∧ _))

instance (unit : TimeUnit) (count : Int) : Decidable (HasMoment unit count) :=
  inferInstanceAs (Decidable (HasDay _))

/-- An instant lies exactly a number of units after the epoch, and is no leap second. -/
def CountsTo (unit : TimeUnit) (count : Int) (t : Instant) : Prop :=
  t.nanos < nanosPerSecond ∧
    t.seconds * nanosPerSecond + t.nanos = count * pow10 (9 - unit.precision)

/-! ## Dates -/

theorem toInt_minValue : Int32.minValue.toInt = -2147483648 := by decide

theorem toInt_maxValue : Int32.maxValue.toInt = 2147483647 := by decide

theorem toInt_epochOrdinal : Date.epochOrdinal.toInt = 719163 := by decide

theorem checkedAdd_of_fits {a b : Int32} (hmin : Int32.minValue.toInt ≤ a.toInt + b.toInt)
    (hmax : a.toInt + b.toInt ≤ Int32.maxValue.toInt) :
    ∃ c, checkedAdd a b = some c ∧ c.toInt = a.toInt + b.toInt := by
  have hsum : (a + b).toInt = a.toInt + b.toInt := by
    rw [toInt_minValue] at hmin
    rw [toInt_maxValue] at hmax
    rw [Int32.toInt_add, Int.bmod_eq_of_le] <;> omega
  exact ⟨a + b, if_pos ⟨hmin, hmax⟩, hsum⟩

theorem checkedAdd_of_overflow {a b : Int32} (h : Int32.maxValue.toInt < a.toInt + b.toInt) :
    checkedAdd a b = none :=
  if_neg fun hfits => Int.not_lt.2 hfits.2 h

/-- The way over the days from the year 1 leads to the same date; a sum that needs more than 32
bits belongs to a day far behind the last one. -/
theorem ofOrdinal?_checkedAdd (days : Int32) :
    (checkedAdd days Date.epochOrdinal).bind Date.ofOrdinal? = Date.ofDay? days.toInt := by
  have hdays : -2147483648 ≤ days.toInt := days.le_toInt
  have hepoch : Date.epochOrdinal.toInt = 719163 := toInt_epochOrdinal
  have hmin : Int32.minValue.toInt ≤ days.toInt + Date.epochOrdinal.toInt := by
    rw [toInt_minValue]
    omega
  rcases Int.lt_or_le Int32.maxValue.toInt (days.toInt + Date.epochOrdinal.toInt) with hover | hmax
  -- Behind the last day by far; before the first one the sum is never too small.
  · have hbeyond : ¬ (firstDay ≤ days.toInt ∧ days.toInt ≤ lastDay) := by
      rw [toInt_maxValue] at hover
      simp only [lastDay]
      omega
    rw [checkedAdd_of_overflow hover, Date.ofDay?, dif_neg hbeyond]
    rfl
  · obtain ⟨n, hn, hsum⟩ := checkedAdd_of_fits hmin hmax
    have hback : n.toInt - Date.epochOrdinal.toInt = days.toInt := by omega
    rw [hn, Option.bind_some, Date.ofOrdinal?, hback]

theorem dateValue_of_hasDay {days : Int32} (h : HasDay days.toInt) :
    dateValue days = .ok (.date ⟨days.toInt, h.1, h.2⟩) := by
  have hdate : Date.ofDay? days.toInt = some ⟨days.toInt, h.1, h.2⟩ :=
    Date.ofDay?_eq_some_iff.2 rfl
  rw [dateValue, ofOrdinal?_checkedAdd, hdate]

theorem dateValue_of_not_hasDay {days : Int32} (h : ¬ HasDay days.toInt) :
    dateValue days = .error (outOfRange days.toInt "date32") := by
  have hdate : Date.ofDay? days.toInt = none := dif_neg h
  rw [dateValue, ofOrdinal?_checkedAdd, hdate]

/-! ## Timestamps -/

section Timestamps

variable {unit : TimeUnit}

/-- A moment lies on a day of the calendar if its second does. -/
theorem hasMoment_iff {count : Int} :
    HasMoment unit count ↔
      firstDay * secondsPerDay ≤ count / pow10 unit.precision ∧
        count / pow10 unit.precision < (lastDay + 1) * secondsPerDay := by
  have hday : count / (secondsPerDay * pow10 unit.precision) =
      count / pow10 unit.precision / secondsPerDay := by
    rw [Int.mul_comm, Int.ediv_ediv_of_nonneg (Int.natCast_nonneg _)]
  rw [HasMoment, hday]
  generalize count / (pow10 unit.precision : Int) = second
  simp only [HasDay, firstDay, lastDay, secondsPerDay]
  omega

/-- Every number of nanoseconds of 64 bits counts to a moment of the calendar. -/
theorem hasMoment_nanosecond (count : Int64) : HasMoment .nanosecond count.toInt := by
  have hlow : -2 ^ 63 ≤ count.toInt := count.le_toInt
  have hhigh : count.toInt < 2 ^ 63 := count.toInt_lt
  have hsecond : (pow10 TimeUnit.nanosecond.precision : Int) = 1000000000 := rfl
  rw [hasMoment_iff, hsecond]
  simp only [firstDay, lastDay, secondsPerDay]
  omega

/-- The units of a count beyond whole seconds, in nanoseconds. -/
def fraction (unit : TimeUnit) (count : Int) : Nat :=
  (count % pow10 unit.precision).toNat * pow10 (9 - unit.precision)

theorem fraction_lt (unit : TimeUnit) (count : Int) : fraction unit count < nanosPerSecond := by
  cases unit <;>
    simp only [fraction, TimeUnit.precision, pow10, Nat.pow_eq, nanosPerSecond] <;> omega

theorem seconds_add_fraction (unit : TimeUnit) (count : Int) :
    count / pow10 unit.precision * nanosPerSecond + fraction unit count =
      count * pow10 (9 - unit.precision) := by
  cases unit <;>
    simp only [fraction, TimeUnit.precision, pow10, Nat.pow_eq, nanosPerSecond] <;> omega

/-- Every unit is counted alike: in whole seconds and what is left of them. -/
theorem instantAt_eq (unit : TimeUnit) (count : Int64) :
    instantAt unit count =
      Instant.ofUnix? (count.toInt / pow10 unit.precision) (fraction unit count.toInt) := by
  cases unit with
  | nanosecond =>
    -- No count is tested here, and none would fail the test.
    have hfraction : (count.toInt % 1000000000).toNat = fraction .nanosecond count.toInt :=
      (Nat.mul_one _).symm
    exact (Instant.ofUnix?_eq_some_iff.2 ⟨rfl, hfraction⟩).symm
  | second | millisecond | microsecond => rfl

/-- A moment of the calendar is reached exactly. -/
theorem instantAt_of_hasMoment {count : Int64} (h : HasMoment unit count.toInt) :
    ∃ t, instantAt unit count = some t ∧ CountsTo unit count.toInt t := by
  obtain ⟨hfirst, hlast⟩ := hasMoment_iff.1 h
  -- Less than a second is left over, so that the instant is no leap second.
  have hlt := fraction_lt unit count.toInt
  let t : Instant :=
    ⟨count.toInt / pow10 unit.precision, fraction unit count.toInt, hfirst, hlast, by omega,
      fun hleap => absurd hlt (by omega)⟩
  rw [instantAt_eq]
  exact ⟨t, Instant.ofUnix?_eq_some_iff.2 ⟨rfl, rfl⟩, hlt, seconds_add_fraction unit count.toInt⟩

theorem instantAt_of_not_hasMoment {count : Int64} (h : ¬ HasMoment unit count.toInt) :
    instantAt unit count = none := by
  rw [instantAt_eq, Option.eq_none_iff_forall_ne_some]
  intro t ht
  -- An instant that came out would lie on a day of the calendar.
  obtain ⟨hseconds, -⟩ := Instant.ofUnix?_eq_some_iff.1 ht
  exact h (hasMoment_iff.2 (hseconds ▸ ⟨t.firstDay_le, t.lt_lastDay⟩))

theorem timestampValue_of_hasMoment {count : Int64} (h : HasMoment unit count.toInt) :
    ∃ t, timestampValue unit count = .ok (.timestamp t) ∧ CountsTo unit count.toInt t := by
  obtain ⟨t, ht, hcounts⟩ := instantAt_of_hasMoment h
  exact ⟨t, by rw [timestampValue, ht], hcounts⟩

theorem timestampValue_of_not_hasMoment {count : Int64} (h : ¬ HasMoment unit count.toInt) :
    timestampValue unit count = .error (outOfRange count.toInt "timestamp") := by
  rw [timestampValue, instantAt_of_not_hasMoment h]

end Timestamps

end Arrow
end Ingest
