import Ingest.Calendar.Instant

/-!
# Time zones

A zone is a table of offsets from UTC: the offset before the first change, then for each change
its instant and the offset from then on. `localInstants` lists the instants at which the clocks
of a zone show a given time, the earliest first.
-/

namespace Ingest
namespace Calendar

/-- Whether the instants of a table of changes increase. -/
def ascending : List (Int × Int) → Bool
  | [] => true
  | [_] => true
  | a :: b :: rest => a.1 < b.1 && ascending (b :: rest)

def withinDay (initialOffset : Int) (changes : List (Int × Int)) : Bool :=
  (initialOffset :: changes.map (·.2)).all fun o => -secondsPerDay < o && o < secondsPerDay

/-- A time zone. The changes are in order and no offset is as long as a day. -/
structure Zone where
  name : String
  initialOffset : Int
  changes : List (Int × Int)
  ascending_changes : ascending changes = true := by decide
  withinDay_offsets : withinDay initialOffset changes = true := by decide
  deriving DecidableEq

abbrev ZoneDatabase := String → Option Zone

/-- The offset in force at an instant, given the offset before the changes. -/
def offsetAfter (offset : Int) (changes : List (Int × Int)) (t : Int) : Int :=
  match changes with
  | [] => offset
  | (start, next) :: rest => if t < start then offset else offsetAfter next rest t

/-- The instants at which clocks show `shown`, given the offset before the changes and the
instant from which it holds. -/
def instantsShowing (shown : Int) (since : Option Int) (offset : Int) :
    List (Int × Int) → List Int
  | [] => candidate none
  | (start, next) :: rest =>
    candidate (some start) ++ instantsShowing shown (some start) next rest
where
  /-- The instant at which the offset in force would show the time, if it is in force then. -/
  candidate (stop : Option Int) : List Int :=
    -- At a change the new offset is in force already.
    let t := shown - offset
    if since.all (· ≤ t) && stop.all (t < ·) then [t] else []

namespace Zone

def offsetAt (z : Zone) (t : Int) : Int :=
  offsetAfter z.initialOffset z.changes t

/-- The instants at which the clocks of the zone show a time, the earliest first: none when the
clocks are set past it and several when they are set back. -/
def localInstants (z : Zone) (shown : Int) : List Int :=
  instantsShowing shown none z.initialOffset z.changes

def clockAt (z : Zone) (t : Instant) : WallClock :=
  t.clock (z.offsetAt t.seconds)

end Zone

end Calendar
end Ingest
