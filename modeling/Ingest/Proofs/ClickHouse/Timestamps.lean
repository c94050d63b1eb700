import Ingest.Calendar.Zone.Known
import Ingest.ClickHouse.ColumnType
import Ingest.Proofs.Calendar.LocalTime
import Ingest.Proofs.Outcome

/-!
# Timestamps as local times

A column of timestamps is sent what the clocks of its zone show, down to the nanosecond. The text
tells apart all instants but those between which the clocks of the zone are set back by just the
time that passes (`timestamps_told_apart_iff`), as in the hour that comes twice when summer time
ends (`repeated_hour_written_alike`).
-/

namespace Ingest
namespace ClickHouse

open Calendar

/-! ## What clocks show -/

/-- The instants, in seconds, at which the clocks of a column show a second of local time. -/
def instantsAt (zone : Option Zone) (shown : Int) : List Int :=
  match zone with
  | some z => z.localInstants shown
  | none => [shown]

/-- The second of local time that the clocks of a column show at an instant. -/
def shownAt (zone : Option Zone) (t : Instant) : Int :=
  match zone with
  | some z => t.seconds + z.offsetAt t.seconds
  | none => t.seconds

section Clocks

variable (zone : Option Zone) {t t' : Instant}

theorem clockIn_eq_ofSeconds (t : Instant) :
    clockIn zone t = .ofSeconds (shownAt zone t) t.nanos := by
  cases zone with
  | some z => rfl
  | none => simp only [clockIn, Instant.clock, shownAt, Int.add_zero]

theorem clockIn_eq_iff_mem :
    clockIn zone t' = clockIn zone t ↔
      t'.nanos = t.nanos ∧ t'.seconds ∈ instantsAt zone (shownAt zone t) := by
  rw [clockIn_eq_ofSeconds, clockIn_eq_ofSeconds, WallClock.ofSeconds_inj, and_comm]
  refine and_congr_right fun _ => ?_
  cases zone with
  | some z => exact Zone.mem_localInstants_iff.symm
  | none => exact List.mem_singleton.symm

theorem clockIn_eq_iff_setBack :
    clockIn zone t' = clockIn zone t ↔ t' = t ∨ ∃ z ∈ zone, z.SetBackBetween t' t := by
  cases zone with
  | some z => simpa [clockIn] using Zone.clockAt_eq_iff_setBackBetween
  | none =>
    rw [clockIn_eq_ofSeconds, clockIn_eq_ofSeconds, WallClock.ofSeconds_inj]
    constructor
    · rintro ⟨hseconds, hnanos⟩
      exact .inl (Instant.eq_of_seconds hseconds hnanos)
    · rintro (rfl | ⟨z, hz, -⟩)
      · exact ⟨rfl, rfl⟩
      · cases hz

/-- Texts are the same exactly if the clocks show the same. -/
theorem timestampText_eq_iff (ht : t.nanos < nanosPerSecond) (ht' : t'.nanos < nanosPerSecond) :
    timestampText zone t' = timestampText zone t ↔ clockIn zone t' = clockIn zone t := by
  have hregular : ∀ {u : Instant}, u.nanos < nanosPerSecond → (clockIn zone u).Regular := by
    intro u hu
    rw [clockIn_eq_ofSeconds]
    exact WallClock.regular_ofSeconds _ hu
  have htext : ∀ u, timestampText zone u = String.ofList (clockIn zone u).text := fun _ => rfl
  rw [htext, htext, String.ofList_inj]
  exact WallClock.text_inj (hregular ht') (hregular ht)

end Clocks

/-! ## What is sent -/

/-- The instant that a value stands for in a column of timestamps. Integers count nanoseconds. -/
def instantOf? : Value → Option Instant
  | .timestamp t => some t
  | .int32 n => some (.ofUnixNanos n.toInt64)
  | .int64 n => some (.ofUnixNanos n)
  | .string s => readInstant s.toList
  | _ => none

theorem timestampFormatter_of_instantOf? (zone : Option Zone) {v : Value} {t : Instant}
    (h : instantOf? v = some t) (m : Metadata) :
    timestampFormatter zone v m = .ok (.string (timestampText zone t)) := by
  cases v with
  | string s =>
    have hread : readInstant s.toList = some t := h
    simp only [timestampFormatter, hread]
  | timestamp t' | int32 n | int64 n =>
    cases h
    rfl
  | _ => cases h

section Columns

variable {zones : ZoneDatabase} {unit : TimeUnit} {zoneName : Option String} {nullable : Bool}
  {metadata : Metadata} {w : ColumnType}

/-- A column of timestamps has a zone, if it names one, and sends local times of it. -/
theorem formatter_toColumn_timestamp
    (h : toColumn zones ⟨.scalar (.timestamp unit zoneName), nullable, metadata⟩ = .ok w) :
    ∃ zone, resolveZone zones zoneName = .ok zone ∧
      ∀ v t, instantOf? v = some t → ∀ m,
        w.formatter v m = .ok (.string (timestampText zone t)) := by
  rcases Outcome.map_eq_ok h with ⟨c, hc, rfl⟩
  rcases Outcome.bind_eq_ok hc with ⟨zone, hzone, hc⟩
  cases hc
  refine ⟨zone, hzone, fun v t hv m => ?_⟩
  have hsent := timestampFormatter_of_instantOf? zone hv m
  have hnotNull : v.isNull = false := by
    cases v with
    | null => cases hv
    | _ => rfl
  -- Neither a dictionary nor a default changes what is sent for a value that is not null.
  cases metadata.flag Metadata.lowCardinalityKey <;> cases nullable <;>
    simp [ColumnType.dictionaryEncoded, ColumnType.withDefault, Formatter.nullAs, hnotNull, hsent]

end Columns

/-! ## Which values are told apart -/

/-- Values of a column of timestamps are sent as the same text exactly if they stand for one
instant, or for two between which the clocks of the column's zone are set back by the time that lies
between them. So the instants that a text can stand for are those at which the zone shows one local
time, and only one if its clocks are never set back. -/
theorem timestamps_told_apart_iff {zones : ZoneDatabase} {unit : TimeUnit}
    {zoneName : Option String} {nullable : Bool} {metadata : Metadata} {w : ColumnType}
    (h : (mapper zones).toWarehouse ⟨.scalar (.timestamp unit zoneName), nullable, metadata⟩ =
      .ok w) :
    ∃ zone, resolveZone zones zoneName = .ok zone ∧
      ∀ v t, instantOf? v = some t → t.nanos < nanosPerSecond → ∀ m,
        ∃ x shown, WarehouseType.format w v m = .ok (.string x) ∧
          ∀ v' t', instantOf? v' = some t' → t'.nanos < nanosPerSecond → ∀ m',
            ∃ x', WarehouseType.format w v' m' = .ok (.string x') ∧
              (x' = x ↔ t' = t ∨ ∃ z ∈ zone, z.SetBackBetween t' t) ∧
              (x' = x ↔ t'.nanos = t.nanos ∧ t'.seconds ∈ instantsAt zone shown) ∧
              ((∀ z ∈ zone, z.NeverSetBack) → x' = x → t' = t) := by
  rcases formatter_toColumn_timestamp h with ⟨zone, hzone, hsent⟩
  refine ⟨zone, hzone, fun v t hv ht m => ⟨_, shownAt zone t, hsent v t hv m, ?_⟩⟩
  intro v' t' hv' ht' m'
  have hback := (timestampText_eq_iff zone ht ht').trans (clockIn_eq_iff_setBack zone)
  have hlisted := (timestampText_eq_iff zone ht ht').trans (clockIn_eq_iff_mem zone)
  refine ⟨_, hsent v' t' hv' m', hback, hlisted, fun hnever hsame => ?_⟩
  rcases hback.1 hsame with heq | ⟨z, hz, hsetBack⟩
  · exact heq
  · exact absurd hsetBack ((hnever z hz).not_setBackBetween t' t)

/-- Timestamps in the time of Warsaw. -/
def warsawTime : NeutralType :=
  ⟨.scalar (.timestamp .second (some "Europe/Warsaw")), false, ∅⟩

/-- Two in the morning of the day on which summer time ends in Warsaw, the first time. -/
def firstTwo : Instant :=
  .ofUnixNanos 1698537600000000000

/-- Two in the morning again, an hour later. -/
def secondTwo : Instant :=
  .ofUnixNanos 1698541200000000000

/-- Two in the morning is written alike both times, and a second later it is not. -/
theorem timestamps_told_apart_iff_warsaw :
    ∃ w x x', (mapper Zone.named?).toWarehouse warsawTime = .ok w ∧
      WarehouseType.format w (.timestamp firstTwo) ∅ = .ok (.string x) ∧
      WarehouseType.format w (.timestamp secondTwo) ∅ = .ok (.string x) ∧
      WarehouseType.format w (.int64 1698541201000000000) ∅ = .ok (.string x') ∧ x' ≠ x := by
  have hmap : (mapper Zone.named?).toWarehouse warsawTime = .ok _ := rfl
  rcases timestamps_told_apart_iff hmap with ⟨zone, hzone, htold⟩
  have hwarsaw : zone = some Zone.warsaw := (Except.ok.inj hzone).symm
  rcases htold (.timestamp firstTwo) firstTwo rfl (by decide) ∅ with ⟨x, shown, hx, hothers⟩
  rcases hothers (.timestamp secondTwo) secondTwo rfl (by decide) ∅ with ⟨x₁, hx₁, hback₁, -⟩
  rcases hothers (.int64 1698541201000000000) _ rfl (by decide) ∅ with ⟨x₂, hx₂, hback₂, -⟩
  have hsetBack : Zone.warsaw.SetBackBetween secondTwo firstTwo := ⟨by decide, rfl, by decide⟩
  have hsame : x₁ = x := hback₁.2 (.inr ⟨Zone.warsaw, hwarsaw, hsetBack⟩)
  subst hsame
  refine ⟨_, x₁, x₂, hmap, hx, hx₁, hx₂, fun hlater => ?_⟩
  rcases hback₂.1 hlater with heq | ⟨z, hz, hback⟩
  · exact absurd heq (by decide)
  · cases hwarsaw.symm.trans hz
    exact absurd hback.offsets (by decide)

/-- Both times are written as the same text. -/
theorem repeated_hour_written_alike :
    firstTwo ≠ secondTwo ∧ firstTwo.nanos < nanosPerSecond ∧ secondTwo.nanos < nanosPerSecond ∧
      ∃ w, (mapper Zone.named?).toWarehouse warsawTime = .ok w ∧
        WarehouseType.format w (.timestamp firstTwo) ∅ = .ok (.string "2023-10-29 02:00:00") ∧
        WarehouseType.format w (.timestamp secondTwo) ∅ = .ok (.string "2023-10-29 02:00:00") := by
  have hfirst : timestampText (some Zone.warsaw) firstTwo = "2023-10-29 02:00:00" := by
    decide +kernel
  have hsecond : timestampText (some Zone.warsaw) secondTwo = "2023-10-29 02:00:00" := by
    decide +kernel
  refine ⟨by decide, by decide, by decide, _, rfl, ?_, ?_⟩
  · exact congrArg (fun text => Except.ok (Value.string text)) hfirst
  · exact congrArg (fun text => Except.ok (Value.string text)) hsecond

end ClickHouse
end Ingest
