import Ingest.Floating.Binary
import Mathlib.Algebra.Order.Ring.Nat
import Mathlib.Tactic.Ring

/-!
# Finite numbers

A bit pattern denotes a finite number unless its exponent field is the largest. Rounding gives a
finite pattern for every number whose magnitude is at most that of the largest finite number
(`encodeMagnitude_lt`). So a number stays finite when it is widened (`isFinite_widen`), and also
when it is narrowed, provided that it does not exceed the narrower format (`isFinite_narrow`).
-/

namespace Ingest
namespace Floating

/-- Whether a number is neither infinite nor undefined. -/
def Number.isFinite : Number → Bool
  | .finite _ _ _ => true
  | _ => false

/-! ## Scaling -/

theorem pow2_add (a b : Nat) : pow2 (a + b) = pow2 a * pow2 b :=
  Nat.pow_add 2 a b

theorem pow2_le_pow2 {a b : Nat} (h : a ≤ b) : pow2 a ≤ pow2 b :=
  Nat.pow_le_pow_right (by decide) h

theorem lt_of_pow2_lt_pow2 {a b : Nat} (h : pow2 a < pow2 b) : a < b := by
  by_contra hle
  exact absurd (pow2_le_pow2 (Nat.le_of_not_lt hle)) (Nat.not_le_of_lt h)

/-- The number `m · 2 ^ e` is at most `k · 2 ^ u`. -/
def AtMost (m : Nat) (e : Int) (k : Nat) (u : Int) : Prop :=
  m * pow2 (e - u).toNat ≤ k * pow2 (u - e).toNat

/-- The multiple of `2 ^ u` that `m · 2 ^ e` is rounded to. -/
def rounded (m : Nat) (e u : Int) : Nat :=
  if u ≤ e then m * pow2 (e - u).toNat else Format.divideToEven m (pow2 (u - e).toNat)

theorem divideToEven_le {n d k : Nat} (hd : 0 < d) (h : n ≤ k * d) :
    Format.divideToEven n d ≤ k := by
  have hq : n / d ≤ k := Nat.div_le_of_le_mul (by rwa [Nat.mul_comm])
  have hsplit := Nat.div_add_mod n d
  unfold Format.divideToEven
  simp only
  rcases Nat.lt_or_eq_of_le hq with hlt | heq
  · split_ifs <;> omega
  · -- Nothing is left over, so that nothing is rounded up.
    have hr : n % d = 0 := by
      rw [heq, Nat.mul_comm] at hsplit
      omega
    simp [hr, hd, hq]

theorem rounded_le {m k : Nat} {e u : Int} (h : AtMost m e k u) : rounded m e u ≤ k := by
  unfold AtMost at h
  unfold rounded
  split
  · rename_i hle
    have hzero : (u - e).toNat = 0 := by omega
    simpa [hzero] using h
  · rename_i hlt
    have hzero : (e - u).toNat = 0 := by omega
    rw [hzero, pow2_zero, Nat.mul_one] at h
    exact divideToEven_le (pow2_pos _) h

/-! ## The magnitude of what is rounded -/

section Magnitude

variable {f : Format} {m : Nat} {e : Int}

/-- The exponent of the last place of the largest numbers. -/
def Format.maxExponent (f : Format) : Int :=
  f.minExponent + (f.maxField - 2 : Nat)

theorem exceeds_eq_false_iff {negative : Bool} :
    (Number.finite negative m e).exceeds f = false ↔
      AtMost m e (pow2 (f.fractionBits + 1) - 1) f.maxExponent := by
  have hleft : (e - min e f.maxExponent).toNat = (e - f.maxExponent).toNat := by omega
  have hright : (f.maxExponent - min e f.maxExponent).toNat = (f.maxExponent - e).toNat := by omega
  have hcompare : (Number.finite negative m e).exceeds f =
      (compare (m * pow2 (e - min e f.maxExponent).toNat)
        ((pow2 (f.fractionBits + 1) - 1) * pow2 (f.maxExponent - min e f.maxExponent).toNat) ==
          .gt) := rfl
  rw [hcompare, hleft, hright, AtMost, beq_eq_false_iff_ne, ne_eq, compare_gt_iff_gt, not_lt]

/-- Below the next power of two. -/
theorem atMost_of_lt {n k : Nat} {u : Int} (hm : m < pow2 n) (h : n + e ≤ k + u) :
    AtMost m e (pow2 k) u :=
  calc
    m * pow2 (e - u).toNat
        ≤ pow2 n * pow2 (e - u).toNat := Nat.mul_le_mul_right _ hm.le
    _ = pow2 (n + (e - u).toNat) := (pow2_add _ _).symm
    _ ≤ pow2 (k + (u - e).toNat) := pow2_le_pow2 (by omega)
    _ = pow2 k * pow2 (u - e).toNat := pow2_add _ _

/-- A number below a power of two has its leading digit below that power. -/
theorem lt_of_atMost {n k : Nat} {u : Int} (hm : pow2 n ≤ m)
    (h : AtMost m e (pow2 k - 1) u) : n + e < k + u := by
  have hpos := pow2_pos k
  -- Powers of two on both sides, so that their exponents can be compared.
  have hlt : pow2 (n + (e - u).toNat) < pow2 (k + (u - e).toNat) :=
    calc
      pow2 (n + (e - u).toNat)
          = pow2 n * pow2 (e - u).toNat := pow2_add _ _
      _ ≤ m * pow2 (e - u).toNat := Nat.mul_le_mul_right _ hm
      _ ≤ (pow2 k - 1) * pow2 (u - e).toNat := h
      _ < pow2 k * pow2 (u - e).toNat := Nat.mul_lt_mul_of_pos_right (by omega) (pow2_pos _)
      _ = pow2 (k + (u - e).toNat) := (pow2_add _ _).symm
  have := lt_of_pow2_lt_pow2 hlt
  omega

/-- A number that does not exceed a format has the magnitude bits of a finite pattern. -/
theorem encodeMagnitude_lt (hf : 2 ≤ f.maxField) {negative : Bool}
    (h : (Number.finite negative m e).exceeds f = false) :
    f.encodeMagnitude m e < f.maxField * pow2 f.fractionBits := by
  have hpos := pow2_pos f.fractionBits
  by_cases hm : m = 0
  · simp only [Format.encodeMagnitude, hm, beq_self_eq_true, if_true]
    exact Nat.mul_pos (by omega) hpos
  have hmax := exceeds_eq_false_iff.1 h
  have hlow : pow2 (Nat.log2 m) ≤ m := Nat.log2_self_le hm
  have hhigh : m < pow2 (Nat.log2 m + 1) := Nat.lt_log2_self
  let unit := max f.minExponent (e + Nat.log2 m - f.fractionBits)
  have hencode : f.encodeMagnitude m e =
      min ((unit - f.minExponent).toNat * pow2 f.fractionBits + rounded m e unit)
        (f.maxField * pow2 f.fractionBits) := by
    simp [Format.encodeMagnitude, hm, rounded, unit]
  have hexp : ((Nat.log2 m : Nat) : Int) + e < ((f.fractionBits + 1 : Nat) : Int) + f.maxExponent :=
    lt_of_atMost hlow hmax
  have htop : f.maxExponent = f.minExponent + (f.maxField - 2 : Nat) := rfl
  have hdouble : pow2 (f.fractionBits + 1) = 2 * pow2 f.fractionBits :=
    Nat.mul_comm _ 2
  rw [hencode]
  refine lt_of_le_of_lt (min_le_left _ _) ?_
  generalize hu : (unit - f.minExponent).toNat = u
  rcases Nat.lt_or_eq_of_le (show u ≤ f.maxField - 2 by omega) with hlt | heq
  · -- Rounding up to the next power of two leads to the next exponent, which is one of these.
    have hround : rounded m e unit ≤ pow2 (f.fractionBits + 1) :=
      rounded_le (atMost_of_lt hhigh (by push_cast; omega))
    calc
      u * pow2 f.fractionBits + rounded m e unit
          ≤ u * pow2 f.fractionBits + 2 * pow2 f.fractionBits := by omega
      _ = (u + 2) * pow2 f.fractionBits := (Nat.add_mul _ _ _).symm
      _ < f.maxField * pow2 f.fractionBits := Nat.mul_lt_mul_of_pos_right (by omega) hpos
  · -- At the largest exponent the largest number bounds what is rounded.
    have hunit : unit = f.maxExponent := by omega
    have hround : rounded m e unit ≤ pow2 (f.fractionBits + 1) - 1 := rounded_le (hunit ▸ hmax)
    calc
      u * pow2 f.fractionBits + rounded m e unit
          < u * pow2 f.fractionBits + 2 * pow2 f.fractionBits := by omega
      _ = (u + 2) * pow2 f.fractionBits := (Nat.add_mul _ _ _).symm
      _ = f.maxField * pow2 f.fractionBits := by rw [show u + 2 = f.maxField by omega]

end Magnitude

/-! ## Patterns -/

namespace Format

variable {f : Format}

/-- The exponent field of a pattern. -/
def field (f : Format) (bits : Nat) : Nat :=
  bits / pow2 f.fractionBits % pow2 f.exponentBits

theorem isFinite_decode (f : Format) (bits : Nat) :
    (f.decode bits).isFinite = (f.field bits != f.maxField) := by
  unfold decode field
  simp only
  split_ifs <;> simp_all [Number.isFinite]

/-- The significand and the exponent of a finite number of a format. -/
theorem decode_finite {bits m : Nat} {e : Int} {negative : Bool}
    (h : f.decode bits = .finite negative m e) :
    m < pow2 (f.fractionBits + 1) ∧ e ≤ f.maxExponent := by
  have hfraction : bits % pow2 f.fractionBits < pow2 f.fractionBits :=
    Nat.mod_lt _ (pow2_pos _)
  have hfield : bits / pow2 f.fractionBits % pow2 f.exponentBits < pow2 f.exponentBits :=
    Nat.mod_lt _ (pow2_pos _)
  have hdouble : pow2 (f.fractionBits + 1) = pow2 f.fractionBits * 2 := rfl
  unfold decode at h
  simp only at h
  unfold maxExponent
  split_ifs at h with hmax hzero hsmall
  · obtain ⟨-, rfl, rfl⟩ := Number.finite.inj h
    omega
  · obtain ⟨-, rfl, rfl⟩ := Number.finite.inj h
    rw [beq_iff_eq, maxField] at hmax
    unfold maxField
    omega

/-- The exponent field of a magnitude below the sign bit; the sign bit is no part of it. -/
theorem field_signBits_add {negative : Bool} {field fraction : Nat} (hfield : field ≤ f.maxField)
    (hfraction : fraction < pow2 f.fractionBits) :
    f.field (encode.signBits f negative + (field * pow2 f.fractionBits + fraction)) = field := by
  have hpos := pow2_pos f.fractionBits
  have hall := pow2_pos f.exponentBits
  have hlt : field < pow2 f.exponentBits := by
    unfold maxField at hfield
    omega
  -- The sign bit is a multiple of all that the field can count.
  have hsign : ∃ k, encode.signBits f negative = k * pow2 f.exponentBits * pow2 f.fractionBits := by
    cases negative with
    | false => exact ⟨0, by simp [encode.signBits]⟩
    | true => exact ⟨1, by simp [encode.signBits, pow2_add, Nat.mul_comm]⟩
  rcases hsign with ⟨k, hk⟩
  have hbits : encode.signBits f negative + (field * pow2 f.fractionBits + fraction) =
      fraction + (k * pow2 f.exponentBits + field) * pow2 f.fractionBits := by
    rw [hk]
    ring
  rw [Format.field, hbits, Nat.add_mul_div_right _ _ hpos, Nat.div_eq_of_lt hfraction, Nat.zero_add,
    Nat.add_comm, Nat.add_mul_mod_self_right, Nat.mod_eq_of_lt hlt]

/-- A number is rounded to a finite one exactly if it is finite, unless it exceeds the format. -/
theorem isFinite_decode_encode (hfields : 2 ≤ f.maxField) (hbits : 0 < f.fractionBits)
    {x : Number} (h : x.isFinite = true → x.exceeds f = false) :
    (f.decode (f.encode x)).isFinite = x.isFinite := by
  have hpos := pow2_pos f.fractionBits
  cases x with
  | finite negative m e =>
    have hlt := encodeMagnitude_lt hfields (h rfl)
    have hfield : f.encodeMagnitude m e / pow2 f.fractionBits < f.maxField :=
      Nat.div_lt_of_lt_mul (by rwa [Nat.mul_comm])
    have hsplit : f.encodeMagnitude m e =
        f.encodeMagnitude m e / pow2 f.fractionBits * pow2 f.fractionBits +
          f.encodeMagnitude m e % pow2 f.fractionBits := (Nat.div_add_mod' _ _).symm
    rw [isFinite_decode, encode, hsplit, field_signBits_add hfield.le (Nat.mod_lt _ hpos)]
    simpa [Number.isFinite] using hfield.ne
  | infinite negative =>
    have hfield : f.field (f.encode (.infinite negative)) = f.maxField :=
      field_signBits_add le_rfl hpos
    rw [isFinite_decode, hfield, bne_self_eq_false]
    rfl
  | nan =>
    have hfraction : pow2 (f.fractionBits - 1) < pow2 f.fractionBits :=
      Nat.pow_lt_pow_right (by decide) (by omega)
    have hunsigned : f.encode .nan = encode.signBits f false +
        (f.maxField * pow2 f.fractionBits + pow2 (f.fractionBits - 1)) := (Nat.zero_add _).symm
    have hfield : f.field (f.encode .nan) = f.maxField := by
      rw [hunsigned, field_signBits_add le_rfl hfraction]
    rw [isFinite_decode, hfield, bne_self_eq_false]
    rfl

/-- A pattern has one bit more than its exponent and its fraction. -/
theorem encode_lt (f : Format) (x : Number) :
    f.encode x < pow2 (f.fractionBits + f.exponentBits) * 2 := by
  have hpos := pow2_pos f.fractionBits
  -- The magnitude ends below the sign bit.
  have hsign : ∀ negative, encode.signBits f negative ≤ pow2 (f.fractionBits + f.exponentBits) := by
    intro negative
    cases negative <;> simp [encode.signBits]
  have htop : f.maxField * pow2 f.fractionBits + pow2 f.fractionBits =
      pow2 (f.fractionBits + f.exponentBits) := by
    have := pow2_pos f.exponentBits
    rw [pow2_add, Nat.mul_comm (pow2 f.fractionBits), ← Nat.succ_mul, maxField]
    congr 1
    omega
  cases x with
  | nan =>
    have hhalf : pow2 (f.fractionBits - 1) ≤ pow2 f.fractionBits := pow2_le_pow2 (by omega)
    simp only [encode]
    omega
  | infinite negative =>
    have := hsign negative
    simp only [encode]
    omega
  | finite negative m e =>
    have := hsign negative
    have hmagnitude : f.encodeMagnitude m e ≤ f.maxField * pow2 f.fractionBits := by
      unfold encodeMagnitude
      split
      · exact Nat.zero_le _
      · exact min_le_right _ _
    simp only [encode]
    omega

end Format

/-! ## Widening and narrowing -/

/-- No number of the 32-bit format exceeds the 64-bit format. -/
theorem exceeds_double_decode {bits : Nat} (h : (single.decode bits).isFinite = true) :
    (single.decode bits).exceeds double = false := by
  cases hx : single.decode bits with
  | nan => rfl
  | infinite negative =>
    rw [hx] at h
    cases h
  | finite negative m e =>
    rcases Format.decode_finite hx with ⟨hm, he⟩
    -- The largest exponent is greater and the significands are longer.
    have htop : single.maxExponent ≤ double.maxExponent := by decide
    have hzero : (e - double.maxExponent).toNat = 0 := by omega
    rw [exceeds_eq_false_iff, AtMost, hzero, pow2_zero, Nat.mul_one]
    calc
      m ≤ pow2 (single.fractionBits + 1) := hm.le
      _ ≤ pow2 (double.fractionBits + 1) - 1 := by decide
      _ ≤ (pow2 (double.fractionBits + 1) - 1) * pow2 (double.maxExponent - e).toNat :=
        Nat.le_mul_of_pos_right _ (pow2_pos _)

theorem isFinite_widen (bits : UInt32) :
    (double.decode (widen bits).toNat).isFinite = (single.decode bits.toNat).isFinite := by
  have hencode := double.encode_lt (single.decode bits.toNat)
  have hbits : (widen bits).toNat = double.encode (single.decode bits.toNat) :=
    UInt64.toNat_ofNat_of_lt hencode
  rw [hbits, Format.isFinite_decode_encode (by decide) (by decide) exceeds_double_decode]

/-- A number that does not exceed the 32-bit format stays what it is in this respect. -/
theorem isFinite_narrow {bits : UInt64} (h : (double.decode bits.toNat).exceeds single = false) :
    (single.decode (narrow bits).toNat).isFinite = (double.decode bits.toNat).isFinite := by
  have hencode := single.encode_lt (double.decode bits.toNat)
  have hbits : (narrow bits).toNat = single.encode (double.decode bits.toNat) :=
    UInt32.toNat_ofNat_of_lt hencode
  rw [hbits, Format.isFinite_decode_encode (by decide) (by decide) fun _ => h]

end Floating
end Ingest
