import Ingest.Decimal.Shortest

/-!
# Notations for decimals

`plain` writes every decimal without an exponent. `styled` keeps to positional notation for numbers
of moderate size, which depends on the format they come from, and writes an exponent beyond.
-/

namespace Ingest
namespace Decimal

def sign (d : Decimal) : List Char :=
  if d.negative then ['-'] else []

/-- The exponent of the first digit in powers of ten. -/
def leading (d : Decimal) : Int :=
  d.exponent + (Text.digits d.digits).length - 1

/-- The digits before and after the decimal point; the part before it is never empty. -/
def parts (d : Decimal) : List Char × List Char :=
  let ds := Text.digits d.digits
  if 0 ≤ d.exponent then (ds ++ List.replicate d.exponent.toNat '0', [])
  else
    let places := (-d.exponent).toNat
    if places < ds.length then (ds.take (ds.length - places), ds.drop (ds.length - places))
    else (['0'], List.replicate (places - ds.length) '0' ++ ds)

/-- Positional notation; an integer has no decimal point. -/
def plain (d : Decimal) : String :=
  match d.parts with
  | (whole, []) => String.ofList (d.sign ++ whole)
  | (whole, fraction) => String.ofList (d.sign ++ whole ++ '.' :: fraction)

/-- Positional notation, with at least one digit after the point. -/
def pointed (d : Decimal) : List Char :=
  match d.parts with
  | (whole, []) => d.sign ++ whole ++ ['.', '0']
  | (whole, fraction) => d.sign ++ whole ++ '.' :: fraction

/-- One digit before the point, then a signed power of ten. -/
def exponential (d : Decimal) : List Char :=
  let mark := 'e' :: (if 0 ≤ d.leading then ['+'] else []) ++ Text.integer d.leading
  match Text.digits d.digits with
  | [] => []
  | [c] => d.sign ++ c :: mark
  | c :: cs => d.sign ++ c :: '.' :: cs ++ mark

/-- How the numbers of a format are written in JSON text: positional if the exponent of the first
digit lies between two bounds, otherwise with an exponent. -/
structure Style where
  format : Floating.Format
  leastPositional : Int
  greatestPositional : Int
  deriving DecidableEq, Repr

namespace Style

/-- The style of the 64-bit format: from 0.00001 up to sixteen digits before the point. -/
def double : Style := ⟨Floating.double, -5, 15⟩

/-- The style of the 32-bit format: from 0.000001 up to thirteen digits before the point. -/
def single : Style := ⟨Floating.single, -6, 12⟩

end Style

/-- The notation of a decimal in a style; zero has no exponent. -/
def styled (style : Style) (d : Decimal) : List Char :=
  if d.digits == 0 then d.pointed
  else if style.leastPositional ≤ d.leading && d.leading ≤ style.greatestPositional then d.pointed
  else d.exponential

end Decimal

namespace Floating

/-- The text of a number inside messages: positional, a tie going away from zero. -/
def Number.text (f : Format) : Number → String
  | .nan => "NaN"
  | .infinite negative => if negative then "-inf" else "inf"
  | .finite negative m e => (Decimal.shortest f .awayFromZero negative m e).plain

/-- The decimal of a number in JSON text, a tie going to the even digit; only a finite number
has one. -/
def Number.jsonDecimal? (f : Format) : Number → Option Decimal
  | .nan | .infinite _ => none
  | .finite negative m e => some (Decimal.shortest f .toEven negative m e)

end Floating
end Ingest
