import Ingest.Floating.Binary
import Ingest.Text.Digits

/-!
# Shortest decimals

The shortest decimal of a binary floating-point number: of all decimals that round to it those
with the fewest digits, and of these the nearest. Two that are equally near are separated by the
rule that the caller names.
-/

namespace Ingest

/-- The number `± digits · 10 ^ exponent`. -/
structure Decimal where
  negative : Bool
  digits : Nat
  exponent : Int
  deriving DecidableEq, Repr

namespace Decimal

/-- Which of two equally near decimals is taken. -/
inductive Tie where
  | toEven
  | awayFromZero
  deriving DecidableEq, Repr

/-- The decimals that round to a number: all between two bounds, given as quotients over one
denominator, with the number itself between them. -/
structure Interval where
  low : Nat
  value : Nat
  high : Nat
  denominator : Nat
  closed : Bool

namespace Interval

/-- The decimals that round to `m · 2 ^ e` in a format, in quarters of the last place. Below a
power of two the neighbour is only half as far away, except at the smallest numbers. The bounds
belong to the interval when the significand is even. -/
def around (f : Floating.Format) (m : Nat) (e : Int) : Interval :=
  let below := if m == pow2 f.fractionBits && f.minExponent < e then 1 else 2
  let scale := pow2 e.toNat
  { low := (4 * m - below) * scale
    value := 4 * m * scale
    high := (4 * m + 2) * scale
    denominator := 4 * pow2 (-e).toNat
    closed := m % 2 == 0 }

/-- Whether `n · 10 ^ k` lies in the interval. -/
def holds (i : Interval) (n : Nat) (k : Int) : Bool :=
  let x := n * pow10 k.toNat * i.denominator
  let s := pow10 (-k).toNat
  if i.closed then i.low * s ≤ x && x ≤ i.high * s else i.low * s < x && x < i.high * s

/-- The multiple of `10 ^ k` in the interval nearest to the value, if there is one. -/
def nearestMultiple (i : Interval) (tie : Tie) (k : Int) : Option Nat :=
  let unit := pow10 k.toNat * i.denominator
  let value := i.value * pow10 (-k).toNat
  let n := value / unit
  let r := value % unit
  let up :=
    if 2 * r < unit then false
    else if unit < 2 * r then true
    else match tie with
      | .toEven => n % 2 == 1
      | .awayFromZero => true
  match i.holds n k && 0 < n, i.holds (n + 1) k with
  | true, true => some (if up then n + 1 else n)
  | true, false => some n
  | false, true => some (n + 1)
  | false, false => none

/-- The decimal exponent of the first digit of the value. The number of places exceeds that of
the smallest number of the formats in use. -/
def leadingExponent (i : Interval) : Int :=
  let places : Nat := 400
  ((Text.digits (i.value * pow10 places / i.denominator)).length : Int) - 1 - places

end Interval

/-- Moves zeros at the end of the digits into the exponent, at most `fuel` of them. -/
def trim : Nat → Nat → Int → Nat × Int
  | 0, n, k => (n, k)
  | fuel + 1, n, k => if n % 10 == 0 then trim fuel (n / 10) (k + 1) else (n, k)

/-- Seventeen digits identify every number of the 64-bit format. -/
def maxDigits : Nat := 17

/-- The shortest decimal that rounds to a finite number of a format. -/
def shortest (f : Floating.Format) (tie : Tie) (negative : Bool) (m : Nat) (e : Int) : Decimal :=
  if m == 0 then ⟨negative, 0, 0⟩
  else
    let i := Interval.around f m e
    let first := i.leadingExponent
    -- The grids get finer by one place each time, so the first that is hit has the fewest digits.
    let hit := (List.range maxDigits).findSome? fun (d : Nat) =>
      (i.nearestMultiple tie (first - d)).map fun n => trim maxDigits n (first - d)
    match hit with
    | some (n, k) => ⟨negative, n, k⟩
    | none => ⟨negative, m, e⟩

end Decimal
end Ingest
