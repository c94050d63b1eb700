import Ingest.Calendar.Zone.Known
import Ingest.Proofs.ClickHouse.Timestamps

/-!
# Defaults and nulls

A nullable scalar column is declared with a default, and a row without a value for it is sent the
value that stands beside this default. `literal?` reads the text of the declaration on its own: both
are the same value, unless the zone of a timestamp skips the beginning of 1970-01-01
(`null_sent_iff_epoch_shown`).
-/

namespace Ingest
namespace ClickHouse

open Calendar

/-! ## Literals -/

/-- The text inside a quoted literal without escapes. -/
def unquoted? : List Char → Option String
  | '\'' :: cs =>
    if cs.getLast? == some '\'' && cs.dropLast.all (fun c => c != '\'' && c != '\\') then
      some (String.ofList cs.dropLast)
    else none
  | _ => none

def natural? (cs : List Char) : Option Nat :=
  if !cs.isEmpty && cs.all Text.isDigit then some (Text.ofDigits cs) else none

/-- The value that a quoted text stands for in a column of a scalar type, as it is sent. -/
def ofQuoted? (s : Scalar) (text : String) : Option Value :=
  match s with
  | .string | .date32 | .timestamp _ _ => some (.string text)
  | _ => none

/-- The value that a number stands for in a column of a scalar type, as it is sent. -/
def ofNatural? (s : Scalar) (n : Nat) : Option Value :=
  match s with
  | .bool => some (.bool (n != 0))
  | .int32 => if n < pow2 31 then some (.int32 (Int32.ofNat n)) else none
  | .int64 => if n < pow2 63 then some (.int64 (Int64.ofNat n)) else none
  | .float32 => some (.float32 (UInt32.ofNat (Floating.single.encode (.finite false n 0))))
  | .float64 => some (.float64 (UInt64.ofNat (Floating.double.encode (.finite false n 0))))
  | _ => none

/-- The value that a literal stands for in a column of a scalar type, as it is sent. -/
def literal? (s : Scalar) (sql : String) : Option Value :=
  match unquoted? sql.toList with
  | some text => ofQuoted? s text
  | none => (natural? sql.toList).bind (ofNatural? s)

theorem literal?_of_unquoted? {s : Scalar} {sql text : String}
    (h : unquoted? sql.toList = some text) : literal? s sql = ofQuoted? s text := by
  rw [literal?, h]

theorem literal?_zero (s : Scalar) : literal? s "0" = ofNatural? s 0 := by
  have hquoted : unquoted? "0".toList = none := by decide +kernel
  have hnatural : natural? "0".toList = some 0 := by decide +kernel
  rw [literal?, hquoted, hnatural]
  rfl

theorem unquoted?_empty : unquoted? "''".toList = some "" := by decide +kernel

theorem unquoted?_day : unquoted? "'1970-01-01'".toList = some "1970-01-01" := by decide +kernel

theorem unquoted?_midnight :
    unquoted? "'1970-01-01 00:00:00'".toList = some "1970-01-01 00:00:00" := by decide +kernel

/-! ## The beginning of 1970-01-01 -/

/-- Every second within a day of the epoch is an instant. -/
theorem exists_ofUnix? {seconds : Int} (hlow : -secondsPerDay < seconds)
    (hhigh : seconds < secondsPerDay) : ∃ t, Instant.ofUnix? seconds 0 = some t := by
  have hrange : firstDay * secondsPerDay ≤ seconds ∧ seconds < (lastDay + 1) * secondsPerDay ∧
      0 < 2 * nanosPerSecond ∧ (nanosPerSecond ≤ 0 → seconds % 60 = 59) := by
    simp only [firstDay, lastDay, secondsPerDay, nanosPerSecond] at hlow hhigh ⊢
    omega
  exact ⟨_, dif_pos hrange⟩

section Epoch

variable (zone : Option Zone)

theorem nanos_localEpoch : (localEpoch zone).nanos = 0 := by
  unfold localEpoch
  cases hfirst : (zone.bind fun z => (z.localInstants 0).head?).bind
      fun t => Instant.ofUnix? t 0 with
  | none => rfl
  | some t =>
    rcases Option.bind_eq_some_iff.1 hfirst with ⟨seconds, -, ht⟩
    exact (Instant.ofUnix?_eq_some_iff.1 ht).2

/-- If the clocks of a zone show the beginning of 1970-01-01 at all, they show it at the instant
that stands for it. -/
theorem shownAt_localEpoch (h : ∀ z ∈ zone, ∃ t, t + z.offsetAt t = 0) :
    shownAt zone (localEpoch zone) = 0 := by
  cases zone with
  | none => rfl
  | some z =>
    rcases h z rfl with ⟨t, ht⟩
    have hmem : t ∈ z.localInstants 0 := Zone.mem_localInstants_iff.2 ht
    rcases List.exists_cons_of_ne_nil (List.ne_nil_of_mem hmem) with ⟨first, rest, hlist⟩
    have hfirst : first + z.offsetAt first = 0 :=
      Zone.mem_localInstants_iff.1 (hlist ▸ List.mem_cons_self)
    -- The instant is less than a day away from the epoch, as the offset is shorter than a day.
    have hbounds := z.offsetAt_bounds first
    have hlow : -secondsPerDay < first := by omega
    have hhigh : first < secondsPerDay := by omega
    rcases exists_ofUnix? hlow hhigh with ⟨i, hi⟩
    have hepoch : localEpoch (some z) = i := by simp [localEpoch, hlist, hi]
    rw [shownAt, hepoch, (Instant.ofUnix?_eq_some_iff.1 hi).1]
    exact hfirst

/-- The instant that stands for the beginning of 1970-01-01 is written as such exactly if the
clocks of the zone show it at all. -/
theorem timestampText_localEpoch_iff :
    timestampText zone (localEpoch zone) = "1970-01-01 00:00:00" ↔
      ∀ z ∈ zone, ∃ t, t + z.offsetAt t = 0 := by
  have hnanos : (0 : Nat) < nanosPerSecond := by decide
  have hmidnight : "1970-01-01 00:00:00" = String.ofList (WallClock.ofSeconds 0 0).text := by
    decide +kernel
  have hclock : clockIn zone (localEpoch zone) =
      .ofSeconds (shownAt zone (localEpoch zone)) 0 := by
    rw [clockIn_eq_ofSeconds, nanos_localEpoch]
  have htext : timestampText zone (localEpoch zone) =
      String.ofList (clockIn zone (localEpoch zone)).text := rfl
  rw [htext, hclock, hmidnight, String.ofList_inj,
    WallClock.text_inj (WallClock.regular_ofSeconds _ hnanos) (WallClock.regular_ofSeconds _ hnanos),
    WallClock.ofSeconds_inj]
  constructor
  · rintro ⟨hshown, -⟩ z hz
    cases hz
    exact ⟨_, hshown⟩
  · exact fun h => ⟨shownAt_localEpoch zone h, rfl⟩

end Epoch

/-! ## Null -/

/-- If a type names a zone, its clocks show the beginning of 1970-01-01, be it once or more often. -/
def EpochShown (zones : ZoneDatabase) (s : Scalar) : Prop :=
  ∀ unit name z, s = .timestamp unit (some name) → zones name = some z →
    ∃ t, t + z.offsetAt t = 0

section Columns

variable {zones : ZoneDatabase} {s : Scalar} {c : ColumnType}

theorem epochShown_of_ne_timestamp (h : ∀ unit zone, s ≠ .timestamp unit zone) :
    EpochShown zones s :=
  fun unit name _ hs => absurd hs (h unit (some name))

theorem epochShown_timestamp_iff {unit : TimeUnit} {zoneName : Option String} {zone : Option Zone}
    (h : resolveZone zones zoneName = .ok zone) :
    EpochShown zones (.timestamp unit zoneName) ↔ ∀ z ∈ zone, ∃ t, t + z.offsetAt t = 0 := by
  cases zoneName with
  | none =>
    cases h
    refine iff_of_true ?_ ?_
    · rintro _ _ _ ⟨⟩
    · rintro _ ⟨⟩
  | some name =>
    rw [resolveZone] at h
    split at h
    · rename_i z hz
      cases h
      constructor
      · rintro hshown _ ⟨⟩
        exact hshown unit name z rfl hz
      · rintro hshown _ _ z' ⟨⟩ hz'
        cases hz.symm.trans hz'
        exact hshown z rfl
    · cases h

/-- The default of a column, its literal and what is sent for it are one value, if the type has no
zone that skips the beginning of 1970-01-01. -/
structure DefaultAgrees (zones : ZoneDatabase) (s : Scalar) (c : ColumnType) (d : Default)
    (v : Value) : Prop where
  declared : c.default = some d
  literal : literal? s d.sql = some v
  sent_iff : ∀ m, c.formatter d.value m = .ok v ↔ EpochShown zones s

theorem exists_of_plainColumn {name sql : String} {value v : Value} {formatter : Formatter}
    (hs : ∀ unit zone, s ≠ .timestamp unit zone) (hliteral : literal? s sql = some v)
    (hsent : ∀ m, formatter value m = .ok v) :
    ∃ d v, DefaultAgrees zones s (plainColumn name sql value formatter) d v :=
  ⟨⟨sql, value⟩, v, rfl, hliteral,
    fun m => iff_of_true (hsent m) (epochShown_of_ne_timestamp hs)⟩

theorem exists_defaultAgrees (h : scalarColumn zones s = .ok c) :
    ∃ d v, DefaultAgrees zones s c d v := by
  have hdate : epochDate.text = "1970-01-01" := by decide +kernel
  have hday : ∀ m, Formatter.date (.date epochDate) m = .ok (.string "1970-01-01") :=
    fun _ => congrArg (fun text => Except.ok (Value.string text)) hdate
  cases s with
  | binary => cases h
  | timestamp unit zoneName =>
    rcases Outcome.bind_eq_ok h with ⟨zone, hzone, h⟩
    cases h
    refine ⟨_, _, rfl, literal?_of_unquoted? unquoted?_midnight, fun m => ?_⟩
    rw [epochShown_timestamp_iff hzone, ← timestampText_localEpoch_iff]
    simp only [timestampFormatter, Except.ok.injEq, Value.string.injEq]
  | string =>
    cases h
    exact exists_of_plainColumn (by rintro _ _ ⟨⟩) (literal?_of_unquoted? unquoted?_empty)
      fun _ => rfl
  | date32 =>
    cases h
    exact exists_of_plainColumn (by rintro _ _ ⟨⟩) (literal?_of_unquoted? unquoted?_day) hday
  | bool =>
    cases h
    exact exists_of_plainColumn (by rintro _ _ ⟨⟩) (literal?_zero .bool) fun _ => rfl
  | int32 =>
    cases h
    exact exists_of_plainColumn (by rintro _ _ ⟨⟩) (literal?_zero .int32) fun _ => rfl
  | int64 =>
    cases h
    exact exists_of_plainColumn (by rintro _ _ ⟨⟩) (literal?_zero .int64) fun _ => rfl
  | float32 =>
    cases h
    exact exists_of_plainColumn (by rintro _ _ ⟨⟩) (literal?_zero .float32) fun _ => rfl
  | float64 =>
    cases h
    exact exists_of_plainColumn (by rintro _ _ ⟨⟩) (literal?_zero .float64) fun _ => rfl

/-- A dictionary keeps the default of a column. -/
theorem DefaultAgrees.dictionaryEncoded {d : Default} {v : Value}
    (h : DefaultAgrees zones s c d v) : DefaultAgrees zones s c.dictionaryEncoded d v :=
  ⟨h.declared, h.literal, h.sent_iff⟩

/-- A nullable scalar column is declared with a default, and null is sent as the value that the
literal of the declaration stands for; only where the clocks of its zone never show the beginning of
1970-01-01 is something else sent. -/
theorem null_sent_iff_epoch_shown {metadata : Metadata}
    (h : (mapper zones).toWarehouse ⟨.scalar s, true, metadata⟩ = .ok c) :
    ∃ d v, c.default = some d ∧ c.definition = c.type.text ++ " DEFAULT " ++ d.sql ∧
      literal? s d.sql = some v ∧
      ∀ m, WarehouseType.format c .null m = .ok v ↔ EpochShown zones s := by
  rcases Outcome.map_eq_ok h with ⟨plain, hplain, rfl⟩
  rcases exists_defaultAgrees hplain with ⟨d, v, hagrees⟩
  generalize hencoded : (if metadata.flag Metadata.lowCardinalityKey = true then
    plain.dictionaryEncoded else plain) = encoded
  have hagrees : DefaultAgrees zones s encoded d v := by
    rw [← hencoded]
    split
    · exact hagrees.dictionaryEncoded
    · exact hagrees
  simp only [if_true]
  refine ⟨d, v, hagrees.declared, ?_, hagrees.literal, fun m => ?_⟩
  · simp only [ColumnType.definition, ColumnType.withDefault, hagrees.declared, Option.isSome]
  · rw [← hagrees.sent_iff m]
    simp only [WarehouseType.format, ColumnType.withDefault, hagrees.declared, Option.elim,
      Formatter.nullAs, Value.isNull, if_true]

end Columns

/-- Timestamps in the time of Kwajalein, or null. -/
def kwajaleinTime : NeutralType :=
  ⟨.scalar (.timestamp .second (some "Pacific/Kwajalein")), true, ∅⟩

/-- At the beginning of 1970-01-01 the clocks of Kwajalein are half a day behind. -/
theorem null_sent_iff_epoch_shown_kwajalein :
    ∃ c, (mapper Zone.named?).toWarehouse kwajaleinTime = .ok c ∧
      c.definition = c.type.text ++ " DEFAULT " ++ "'1970-01-01 00:00:00'" ∧
      WarehouseType.format c .null ∅ = .ok (.string "1970-01-01 00:00:00") := by
  have hmap : (mapper Zone.named?).toWarehouse kwajaleinTime = .ok _ := rfl
  rcases null_sent_iff_epoch_shown hmap with ⟨d, v, hdefault, hdefinition, hliteral, hsent⟩
  have hshown : EpochShown Zone.named? (.timestamp .second (some "Pacific/Kwajalein")) := by
    rintro _ _ z ⟨⟩ hz
    have hkwajalein : some Zone.kwajalein = some z := hz
    cases hkwajalein
    exact ⟨43200, by decide⟩
  cases hdefault
  have hvalue : v = .string "1970-01-01 00:00:00" :=
    Option.some.inj (hliteral.symm.trans (literal?_of_unquoted? unquoted?_midnight))
  subst hvalue
  exact ⟨_, hmap, hdefinition, (hsent ∅).2 hshown⟩

/-- A zone whose clocks are set forward from midnight to one at the epoch. -/
def skippingMidnight : Zone where
  name := "Skipping midnight"
  initialOffset := 0
  changes := [(0, 3600)]

-- The default is then an hour that its literal does not name.
example : timestampText (some skippingMidnight) (localEpoch (some skippingMidnight)) =
    "1970-01-01 01:00:00" := by decide +kernel

end ClickHouse
end Ingest
