import Ingest.Calendar.Date
import Ingest.Power

/-!
# Instants

An instant is a number of seconds since 1970-01-01 00:00:00 UTC and a fraction in nanoseconds. A
fraction of a second or more marks a leap second, which only the last second of a minute has.
`WallClock` is what a clock shows at some distance from UTC, and `readInstant` reads a date with
time and offset.
-/

namespace Ingest
namespace Calendar

def nanosPerSecond : Nat := 1000000000

def secondsPerDay : Int := 86400

/-- A moment of the supported range of dates. -/
structure Instant where
  seconds : Int
  nanos : Nat
  firstDay_le : firstDay * secondsPerDay ≤ seconds
  lt_lastDay : seconds < (lastDay + 1) * secondsPerDay
  nanos_lt : nanos < 2 * nanosPerSecond
  leap : nanosPerSecond ≤ nanos → seconds % 60 = 59
  deriving DecidableEq

/-- What a clock shows: a day, a second of the day and the fraction. -/
structure WallClock where
  day : Int
  second : Int
  nanos : Nat
  deriving DecidableEq, Repr

namespace WallClock

def ofSeconds (s : Int) (nanos : Nat) : WallClock :=
  ⟨s / secondsPerDay, s % secondsPerDay, nanos⟩

/-- The second shown; a leap second is shown as the one after the last. -/
def shownSecond (w : WallClock) : Nat :=
  (w.second % 60).toNat + w.nanos / nanosPerSecond

def timeText (w : WallClock) : List Char :=
  Text.padded 2 (w.second / 3600).toNat ++
    ':' :: Text.padded 2 (w.second / 60 % 60).toNat ++ ':' :: Text.padded 2 w.shownSecond

/-- The fraction with 3, 6 or 9 places, the fewest that are exact, and nothing if it is zero. -/
def fractionText (w : WallClock) : List Char :=
  let f := w.nanos % nanosPerSecond
  if f == 0 then []
  else if f % 1000000 == 0 then '.' :: Text.padded 3 (f / 1000000)
  else if f % 1000 == 0 then '.' :: Text.padded 6 (f / 1000)
  else '.' :: Text.padded 9 f

def dateText (w : WallClock) : List Char :=
  (Civil.ofDays w.day).text

end WallClock

namespace Instant

/-- The instant of a number of seconds and a fraction, if it is supported. -/
def ofUnix? (seconds : Int) (nanos : Nat) : Option Instant :=
  if h : firstDay * secondsPerDay ≤ seconds ∧ seconds < (lastDay + 1) * secondsPerDay ∧
      nanos < 2 * nanosPerSecond ∧ (nanosPerSecond ≤ nanos → seconds % 60 = 59) then
    some ⟨seconds, nanos, h.1, h.2.1, h.2.2.1, h.2.2.2⟩
  else none

theorem ofUnix?_eq_some_iff {seconds : Int} {nanos : Nat} {t : Instant} :
    ofUnix? seconds nanos = some t ↔ t.seconds = seconds ∧ t.nanos = nanos := by
  unfold ofUnix?
  split
  · rename_i h
    constructor
    · rintro ⟨⟩
      exact ⟨rfl, rfl⟩
    · rintro ⟨rfl, rfl⟩
      rfl
  · rename_i h
    constructor
    · intro hnone
      cases hnone
    · rintro ⟨rfl, rfl⟩
      exact absurd ⟨t.firstDay_le, t.lt_lastDay, t.nanos_lt, t.leap⟩ h

def clock (t : Instant) (offset : Int) : WallClock :=
  .ofSeconds (t.seconds + offset) t.nanos

def utcText (t : Instant) : List Char :=
  let w := t.clock 0
  w.dateText ++ 'T' :: w.timeText ++ w.fractionText

/-- The text of an instant inside data: the letter Z marks UTC. -/
def text (t : Instant) : String :=
  String.ofList (t.utcText ++ ['Z'])

def offsetText (t : Instant) : String :=
  String.ofList (t.utcText ++ ['+', '0', '0', ':', '0', '0'])

def date (t : Instant) : Date where
  day := t.seconds / secondsPerDay
  firstDay_le := by
    have h := t.firstDay_le
    simp only [firstDay, secondsPerDay] at *
    omega
  le_lastDay := by
    have h := t.lt_lastDay
    simp only [lastDay, secondsPerDay] at *
    omega

def epoch : Instant where
  seconds := 0
  nanos := 0
  firstDay_le := by decide
  lt_lastDay := by decide
  nanos_lt := by decide
  leap := by decide

/-- The instant of a number of nanoseconds since the epoch; every such instant is supported. -/
def ofUnixNanos (n : Int64) : Instant where
  seconds := n.toInt / 1000000000
  nanos := (n.toInt % 1000000000).toNat
  firstDay_le := by
    have h := n.le_toInt
    simp only [firstDay, secondsPerDay]
    omega
  lt_lastDay := by
    have h := n.toInt_lt
    simp only [lastDay, secondsPerDay]
    omega
  nanos_lt := by
    simp only [nanosPerSecond]
    omega
  leap := by
    simp only [nanosPerSecond]
    omega

end Instant

/-! ## Reading instants -/

/-- Reads exactly `count` digits. -/
def readNumber (count : Nat) (cs : List Char) : Option (Nat × List Char) :=
  let ds := cs.take count
  if ds.length == count && ds.all Text.isDigit then some (Text.ofDigits ds, cs.drop count)
  else none

/-- Reads a fraction in nanoseconds. Digits beyond the ninth place are dropped. -/
def readFraction : List Char → Option (Nat × List Char)
  | '.' :: cs =>
    let ds := cs.takeWhile Text.isDigit
    if ds.isEmpty then none
    else
      let kept := ds.take 9
      some (Text.ofDigits kept * pow10 (9 - kept.length), cs.drop ds.length)
  | cs => some (0, cs)

def readSign : List Char → Option (Int × List Char)
  | '+' :: cs => some (1, cs)
  | '-' :: cs | '\u2212' :: cs => some (-1, cs)
  | _ => none

/-- Reads an offset from UTC in seconds, less than a day; the letter Z stands for none. -/
def readOffset : List Char → Option (Int × List Char)
  | 'Z' :: cs | 'z' :: cs => some (0, cs)
  | cs => do
    let (sign, cs) ← readSign cs
    let (hours, cs) ← readNumber 2 cs
    let cs ← readChar ':' cs
    let (minutes, cs) ← readNumber 2 cs
    if hours < 24 && minutes < 60 then some (sign * ((hours * 60 + minutes : Nat) * 60), cs)
    else none

/-- Reads the mark between date and time. -/
def readDateTimeMark : List Char → Option (List Char)
  | 'T' :: cs | 't' :: cs | ' ' :: cs => some cs
  | _ => none

/-- Reads a date, a time and an offset; nothing may stand before or after. Second 60 is a leap
second in any minute. -/
def readInstant (cs : List Char) : Option Instant := do
  let (year, cs) ← readNumber 4 cs
  let cs ← readChar '-' cs
  let (month, cs) ← readNumber 2 cs
  let cs ← readChar '-' cs
  let (day, cs) ← readNumber 2 cs
  let cs ← readDateTimeMark cs
  let (hour, cs) ← readNumber 2 cs
  let cs ← readChar ':' cs
  let (minute, cs) ← readNumber 2 cs
  let cs ← readChar ':' cs
  let (second, cs) ← readNumber 2 cs
  let (nanos, cs) ← readFraction cs
  let (offset, cs) ← readOffset cs
  let date ← Date.ofCivil? ⟨year, month, day⟩
  if !cs.isEmpty || 24 ≤ hour || 60 ≤ minute || 61 ≤ second then none
  else
    -- The leap second lies within the second before it, as a fraction of one second or more.
    let leap := if second == 60 then nanosPerSecond else 0
    let shown := date.day * secondsPerDay + (hour * 3600 + minute * 60 + min second 59 : Nat)
    Instant.ofUnix? (shown - offset) (nanos + leap)

end Calendar
end Ingest
