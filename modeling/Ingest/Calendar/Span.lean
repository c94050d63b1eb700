import Ingest.Power
import Ingest.Text.Digits

/-!
# Spans of time

A span is a number of nanoseconds. Its text uses the largest of the units second, millisecond,
microsecond and nanosecond that is not longer than the span, with a fraction as exact as needed.
-/

namespace Ingest
namespace Calendar

/-- A length of time. -/
structure Span where
  nanos : Nat
  deriving DecidableEq, Repr

namespace Span

/-- The span of a number of milliseconds. -/
def ofMillis (ms : Nat) : Span :=
  ⟨ms * 1000000⟩

def ofSeconds (seconds nanos : Nat) : Span :=
  ⟨seconds * 1000000000 + nanos⟩

def fraction (places n : Nat) : List Char :=
  ((Text.padded places n).reverse.dropWhile (· == '0')).reverse

/-- `n` units of size `pow10 places`, the rest as a fraction, and the name of the unit. -/
def inUnit (n places : Nat) (unit : String) : String :=
  let whole := Text.digits (n / pow10 places)
  match fraction places (n % pow10 places) with
  | [] => String.ofList whole ++ unit
  | f => String.ofList (whole ++ '.' :: f) ++ unit

def text (s : Span) : String :=
  if 1000000000 ≤ s.nanos then inUnit s.nanos 9 "s"
  else if 1000000 ≤ s.nanos then inUnit s.nanos 6 "ms"
  else if 1000 ≤ s.nanos then inUnit s.nanos 3 "µs"
  else inUnit s.nanos 0 "ns"

end Span

end Calendar
end Ingest
