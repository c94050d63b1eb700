import Ingest.Power

/-!
# Binary floating-point numbers

A binary interchange format is given by the widths of its exponent and fraction. `decode` reads
a bit pattern as an exact number and `encode` rounds an exact number to the nearest pattern, a
tie going to the even one. All arithmetic is on natural numbers.
-/

namespace Ingest
namespace Floating

/-- A binary interchange format: one sign bit, then the exponent, then the fraction. -/
structure Format where
  exponentBits : Nat
  fractionBits : Nat
  deriving DecidableEq, Repr

def single : Format := ⟨8, 23⟩

def double : Format := ⟨11, 52⟩

/-- What a bit pattern denotes; a finite number is `± significand · 2 ^ exponent`. -/
inductive Number where
  | nan
  | infinite (negative : Bool)
  | finite (negative : Bool) (significand : Nat) (exponent : Int)
  deriving DecidableEq, Repr

namespace Format

/-- The exponent of the last place of the smallest numbers. -/
def minExponent (f : Format) : Int :=
  2 - (pow2 (f.exponentBits - 1) : Nat) - f.fractionBits

/-- The largest exponent field, which marks infinities and what is no number. -/
def maxField (f : Format) : Nat :=
  pow2 f.exponentBits - 1

/-- The number that a bit pattern denotes. -/
def decode (f : Format) (bits : Nat) : Number :=
  let fraction := bits % pow2 f.fractionBits
  let field := bits / pow2 f.fractionBits % pow2 f.exponentBits
  let negative := bits / pow2 (f.fractionBits + f.exponentBits) % 2 == 1
  if field == f.maxField then
    if fraction == 0 then .infinite negative else .nan
  else if field == 0 then .finite negative fraction f.minExponent
  else .finite negative (pow2 f.fractionBits + fraction) (f.minExponent + (field - 1 : Nat))

/-- Divides and rounds to the nearest integer, a tie going to the even one. -/
def divideToEven (n d : Nat) : Nat :=
  let q := n / d
  let r := n % d
  if 2 * r < d then q
  else if d < 2 * r then q + 1
  else if q % 2 == 0 then q else q + 1

/-- The magnitude bits of the pattern nearest to `m · 2 ^ e`; too large a number is infinite. -/
def encodeMagnitude (f : Format) (m : Nat) (e : Int) : Nat :=
  if m == 0 then 0
  else
    let unit := max f.minExponent (e + Nat.log2 m - f.fractionBits)
    let significand :=
      if unit ≤ e then m * pow2 (e - unit).toNat else divideToEven m (pow2 (unit - e).toNat)
    let bits := (unit - f.minExponent).toNat * pow2 f.fractionBits + significand
    min bits (f.maxField * pow2 f.fractionBits)

/-- The bit pattern nearest to a number, a tie going to the even pattern. -/
def encode (f : Format) : Number → Nat
  | .nan => f.maxField * pow2 f.fractionBits + pow2 (f.fractionBits - 1)
  | .infinite negative => signBits f negative + f.maxField * pow2 f.fractionBits
  | .finite negative m e => signBits f negative + encodeMagnitude f m e
where
  /-- The sign bit at its place. -/
  signBits (f : Format) (negative : Bool) : Nat :=
    if negative then pow2 (f.fractionBits + f.exponentBits) else 0

end Format

namespace Number

/-- Numeric equality: nothing equals what is no number, and the two zeros are equal. -/
def equal : Number → Number → Bool
  | .infinite a, .infinite b => a == b
  | .finite a m e, .finite b n g =>
    if m == 0 || n == 0 then m == 0 && n == 0
    else a == b && compareMagnitude m e n g == .eq
  | _, _ => false
where
  /-- Compares `m · 2 ^ e` with `n · 2 ^ g`. -/
  compareMagnitude (m : Nat) (e : Int) (n : Nat) (g : Int) : Ordering :=
    let low := min e g
    compare (m * pow2 (e - low).toNat) (n * pow2 (g - low).toNat)

/-- Whether the magnitude of a number is above that of the largest finite number of a format. -/
def exceeds (f : Format) : Number → Bool
  | .nan => false
  | .infinite _ => true
  | .finite _ m e =>
    let top := f.minExponent + (f.maxField - 2 : Nat)
    equal.compareMagnitude m e (pow2 (f.fractionBits + 1) - 1) top == .gt

end Number

/-- The pattern of the 64-bit format that denotes the number of a 32-bit pattern. -/
def widen (bits : UInt32) : UInt64 :=
  UInt64.ofNat (double.encode (single.decode bits.toNat))

/-- The 32-bit pattern nearest to the number of a 64-bit pattern. -/
def narrow (bits : UInt64) : UInt32 :=
  UInt32.ofNat (single.encode (double.decode bits.toNat))

end Floating
end Ingest
