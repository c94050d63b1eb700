import Ingest.Calendar.Zone.Basic
import Ingest.Proofs.Calendar.Clock

/-!
# Local times

At an instant the clocks of a zone show its second plus the offset in force. The instants that a
zone lists for a local time are those at which its clocks show it (`mem_localInstants_iff`). A
local time comes back only where the clocks are set back by the time that has passed since it was
shown before (`clockAt_eq_iff_setBackBetween`), so never in a zone whose clocks are not set back at
all.
-/

namespace Ingest
namespace Calendar

/-! ## Tables of changes -/

section Tables

variable {offset shown t t' : Int} {changes : List (Int × Int)}

/-- The offset in force is the one before the changes or one that a change has set. -/
theorem offsetAfter_mem (offset : Int) (changes : List (Int × Int)) (t : Int) :
    offsetAfter offset changes t ∈ offset :: changes.map (·.2) := by
  induction changes generalizing offset with
  | nil => exact List.mem_cons_self
  | cons change rest ih =>
    rcases change with ⟨start, next⟩
    rw [offsetAfter]
    split
    · exact List.mem_cons_self
    · exact List.mem_cons_of_mem offset (ih next)

theorem offsetAfter_of_lt {start next : Int} {rest : List (Int × Int)} (h : t < start) :
    offsetAfter offset ((start, next) :: rest) t = offset :=
  if_pos h

theorem offsetAfter_of_le {start next : Int} {rest : List (Int × Int)} (h : start ≤ t) :
    offsetAfter offset ((start, next) :: rest) t = offsetAfter next rest t :=
  if_neg (Int.not_lt.2 h)

theorem ascending_tail {change : Int × Int} (h : ascending (change :: changes) = true) :
    ascending changes = true := by
  cases changes with
  | nil => rfl
  | cons next rest =>
    rw [ascending, Bool.and_eq_true] at h
    exact h.2

/-- A table begins after a time, if there is one. -/
def BeginsAfter (since : Option Int) (changes : List (Int × Int)) : Prop :=
  ∀ s ∈ since, ∀ change ∈ changes.head?, s < change.1

theorem beginsAfter_none : BeginsAfter none changes := by
  rintro s ⟨⟩

theorem beginsAfter_tail {start next : Int} (h : ascending ((start, next) :: changes) = true) :
    BeginsAfter (some start) changes := by
  rintro s ⟨⟩ change hchange
  cases changes with
  | nil => cases hchange
  | cons following rest =>
    cases hchange
    rw [ascending, Bool.and_eq_true, decide_eq_true_eq] at h
    exact h.1

theorem mem_candidate_iff {since stop : Option Int} :
    t ∈ instantsShowing.candidate shown since offset stop ↔
      (∀ s ∈ since, s ≤ t) ∧ (∀ s ∈ stop, t < s) ∧ t + offset = shown := by
  simp only [instantsShowing.candidate, List.mem_ite_nil_right, List.mem_singleton,
    Bool.and_eq_true, Option.all_eq_true, decide_eq_true_eq]
  constructor
  · rintro ⟨⟨hsince, hstop⟩, rfl⟩
    exact ⟨hsince, hstop, by omega⟩
  · rintro ⟨hsince, hstop, rfl⟩
    have ht : t + offset - offset = t := by omega
    rw [ht]
    exact ⟨⟨hsince, hstop⟩, rfl⟩

/-- The listed instants are those from a time on at which the clocks show what is looked for. -/
theorem mem_instantsShowing_iff {since : Option Int} (hascending : ascending changes = true)
    (hbegins : BeginsAfter since changes) :
    t ∈ instantsShowing shown since offset changes ↔
      (∀ s ∈ since, s ≤ t) ∧ t + offsetAfter offset changes t = shown := by
  induction changes generalizing since offset with
  | nil => simp [instantsShowing, mem_candidate_iff, offsetAfter]
  | cons change rest ih =>
    rcases change with ⟨start, next⟩
    rw [instantsShowing, List.mem_append, mem_candidate_iff,
      ih (ascending_tail hascending) (beginsAfter_tail hascending)]
    rcases Int.lt_or_le t start with hlt | hle
    -- Before the change the old offset is in force, and from it on what the rest tells.
    · rw [offsetAfter_of_lt hlt]
      constructor
      · rintro (⟨hsince, -, hshown⟩ | ⟨hstart, -⟩)
        · exact ⟨hsince, hshown⟩
        · exact absurd (hstart start rfl) (Int.not_le.2 hlt)
      · rintro ⟨hsince, hshown⟩
        exact .inl ⟨hsince, fun s hs => Option.some.inj hs ▸ hlt, hshown⟩
    · rw [offsetAfter_of_le hle]
      constructor
      · rintro (⟨-, hstop, -⟩ | ⟨-, hshown⟩)
        · exact absurd (hstop start rfl) (Int.not_lt.2 hle)
        · refine ⟨fun s hs => ?_, hshown⟩
          exact Int.le_trans (Int.le_of_lt (hbegins s hs (start, next) rfl)) hle
      · rintro ⟨-, hshown⟩
        exact .inr ⟨fun s hs => Option.some.inj hs ▸ hle, hshown⟩

/-- If no change sets the clocks back, the offset in force only grows. -/
theorem offsetAfter_mono (h : (offset :: changes.map (·.2)).Pairwise (· ≤ ·)) (ht : t ≤ t') :
    offsetAfter offset changes t ≤ offsetAfter offset changes t' := by
  induction changes generalizing offset with
  | nil => exact Int.le_refl offset
  | cons change rest ih =>
    rcases change with ⟨start, next⟩
    rw [List.map_cons, List.pairwise_cons] at h
    rcases Int.lt_or_le t start with hlt | hle
    · rw [offsetAfter_of_lt hlt]
      rcases List.mem_cons.1 (offsetAfter_mem offset ((start, next) :: rest) t') with heq | hmem
      · exact Int.le_of_eq heq.symm
      · exact h.1 _ hmem
    · rw [offsetAfter_of_le hle, offsetAfter_of_le (Int.le_trans hle ht)]
      exact ih h.2

end Tables

/-! ## Zones -/

namespace Zone

variable {z : Zone}

/-- The instants that are listed for a local time are those at which the clocks show it. -/
theorem mem_localInstants_iff {t shown : Int} :
    t ∈ z.localInstants shown ↔ t + z.offsetAt t = shown := by
  rw [localInstants, mem_instantsShowing_iff z.ascending_changes beginsAfter_none]
  exact and_iff_right nofun

/-- No offset is as long as a day. -/
theorem offsetAt_bounds (z : Zone) (t : Int) :
    -secondsPerDay < z.offsetAt t ∧ z.offsetAt t < secondsPerDay := by
  have hmem := offsetAfter_mem z.initialOffset z.changes t
  have hwithin := List.all_eq_true.1 z.withinDay_offsets _ hmem
  rw [Bool.and_eq_true, decide_eq_true_eq, decide_eq_true_eq] at hwithin
  exact hwithin

theorem clockAt_eq_iff {t t' : Instant} :
    z.clockAt t = z.clockAt t' ↔
      t.seconds + z.offsetAt t.seconds = t'.seconds + z.offsetAt t'.seconds ∧ t.nanos = t'.nanos :=
  WallClock.ofSeconds_inj

/-- Between two instants the clocks are set back by the time that lies between them. -/
structure SetBackBetween (z : Zone) (t t' : Instant) : Prop where
  ne : t ≠ t'
  nanos : t.nanos = t'.nanos
  offsets : t'.seconds - t.seconds = z.offsetAt t.seconds - z.offsetAt t'.seconds

/-- The clocks are not set back by any change of the zone. -/
def NeverSetBack (z : Zone) : Prop :=
  (z.initialOffset :: z.changes.map (·.2)).Pairwise (· ≤ ·)

/-- Two instants are shown alike only where the clocks are set back between them. -/
theorem clockAt_eq_iff_setBackBetween {t t' : Instant} :
    z.clockAt t = z.clockAt t' ↔ t = t' ∨ z.SetBackBetween t t' := by
  rw [clockAt_eq_iff]
  constructor
  · rintro ⟨hshown, hnanos⟩
    by_cases heq : t = t'
    · exact .inl heq
    · exact .inr ⟨heq, hnanos, by omega⟩
  · rintro (rfl | hback)
    · exact ⟨rfl, rfl⟩
    · have hoffsets := hback.offsets
      exact ⟨by omega, hback.nanos⟩

theorem NeverSetBack.not_setBackBetween (h : z.NeverSetBack) (t t' : Instant) :
    ¬ z.SetBackBetween t t' := by
  intro hback
  have hoffsets := hback.offsets
  have hseconds : t.seconds = t'.seconds := by
    rcases Int.le_total t.seconds t'.seconds with hle | hle
    · have hgrows : z.offsetAt t.seconds ≤ z.offsetAt t'.seconds := offsetAfter_mono h hle
      omega
    · have hgrows : z.offsetAt t'.seconds ≤ z.offsetAt t.seconds := offsetAfter_mono h hle
      omega
  exact hback.ne (Instant.eq_of_seconds hseconds hback.nanos)

end Zone

end Calendar
end Ingest
