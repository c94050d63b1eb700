import Ingest.Proofs.Format.Typing

/-!
# What scalar values are sent as

Warehouses share the formatters of scalar types but the one of timestamps (`Formatter.ofScalar?`).
If that one sends every instant, and sends nothing but texts, then each formatter sends all values
of its type in the shape of the type and changes no integer (`sends_ofScalar?`). A column that also
lets null through sends null as null and the rest as before (`Sends.nullPassthrough`).
-/

namespace Ingest

/-! ## Shapes -/

namespace Scalar

/-- Whether a value is what the values of a scalar type are sent as. -/
def wire : Scalar → Value → Bool
  | .string, .string _ | .date32, .string _ | .timestamp _ _, .string _
  | .bool, .bool _ | .int32, .int32 _ | .int64, .int64 _
  | .float32, .float32 _ | .float64, .float64 _ => true
  | _, _ => false

variable {s : Scalar} {v : Value}

theorem isNull_of_holds (h : s.holds v = true) : v.isNull = false := by
  cases s <;> cases v <;> first | rfl | cases h

theorem isNull_of_wire (h : s.wire v = true) : v.isNull = false := by
  cases s <;> cases v <;> first | rfl | cases h

end Scalar

namespace Value

theorem eq_null_of_isNull {v : Value} (h : v.isNull = true) : v = .null := by
  cases v <;> first | rfl | cases h

end Value

/-- Where null was not allowed, nothing changes once it is. -/
theorem KeepsIntegers.of_required {absent absent' : Option Int} {s : Scalar} {v r : Value}
    (h : KeepsIntegers absent (.scalar s) false v r) (nullable : Bool) :
    KeepsIntegers absent' (.scalar s) nullable v r := by
  cases h with
  | other hs => exact .other hs
  | same hv hsent hfits => exact .same hv hsent hfits

namespace Formatter

/-! ## Formatters of scalar types -/

/-- The formatter of a scalar type, given the one of timestamps. Bytes have none. -/
def ofScalar? (timestamp : Formatter) : Scalar → Option Formatter
  | .string => some string
  | .bool => some bool
  | .int32 => some int32
  | .int64 => some int64
  | .float32 => some float32
  | .float64 => some float64
  | .date32 => some date
  | .timestamp _ _ => some timestamp
  | .binary => none

/-- A formatter of timestamps sends every instant, and whatever it sends is a text. -/
structure SendsTexts (timestamp : Formatter) : Prop where
  total : ∀ t m, ∃ r, timestamp (.timestamp t) m = .ok r
  text : ∀ {v m r}, timestamp v m = .ok r → ∃ s, r = .string s

section

variable {timestamp f : Formatter} {s : Scalar} {v r : Value} {m : Metadata}

theorem format_of_holds (htimestamp : SendsTexts timestamp) (h : ofScalar? timestamp s = some f)
    (hv : s.holds v = true) (m : Metadata) : ∃ r, f v m = .ok r := by
  cases s with
  | binary => cases h
  | timestamp unit zone =>
    cases h
    cases v <;> cases hv
    exact htimestamp.total _ m
  | _ =>
    cases h
    cases v <;> cases hv
    exact ⟨_, rfl⟩

theorem wire_of_format (htimestamp : SendsTexts timestamp) (h : ofScalar? timestamp s = some f)
    (hr : f v m = .ok r) : s.wire r = true := by
  cases s with
  | string =>
    cases h
    rcases string_eq_ok hr with ⟨x, rfl⟩
    rfl
  | bool =>
    cases h
    rcases bool_eq_ok hr with ⟨x, rfl⟩
    rfl
  | int32 =>
    cases h
    rcases int32_eq_ok hr with ⟨x, rfl, -⟩
    rfl
  | int64 =>
    cases h
    rcases int64_eq_ok hr with ⟨x, rfl, -⟩
    rfl
  | float32 =>
    cases h
    rcases float32_eq_ok hr with ⟨x, rfl⟩
    rfl
  | float64 =>
    cases h
    rcases float64_eq_ok hr with ⟨x, rfl⟩
    rfl
  | date32 =>
    cases h
    rcases date_eq_ok hr with ⟨x, rfl⟩
    rfl
  | timestamp unit zone =>
    cases h
    rcases htimestamp.text hr with ⟨x, rfl⟩
    rfl
  | binary => cases h

/-- An integer column is sent the number that the value has, which fits. -/
theorem integer_of_format (h : ofScalar? timestamp s = some f) (hs : s.isInteger = true)
    (hr : f v m = .ok r) : ∃ n, v.integer? = some n ∧ r.integer? = some n ∧ s.fits n = true := by
  cases s with
  | int32 =>
    cases h
    rcases int32_eq_ok hr with ⟨n, rfl, hn⟩
    exact ⟨n.toInt, hn, rfl, Scalar.fits_int32 n⟩
  | int64 =>
    cases h
    rcases int64_eq_ok hr with ⟨n, rfl, hn⟩
    exact ⟨n.toInt, hn, rfl, rfl⟩
  | _ => cases hs

theorem sends_ofScalar? (htimestamp : SendsTexts timestamp) (h : ofScalar? timestamp s = some f)
    (absent : Option Int) :
    Sends f absent (.scalar s) false fun r => s.wire r = true where
  total := by
    rintro v ⟨hv⟩ m
    exact format_of_holds htimestamp h ‹_› m
  shaped hr := wire_of_format htimestamp h hr
  keeps hr := by
    cases hs : s.isInteger with
    | false => exact .other hs
    | true =>
      rcases integer_of_format h hs hr with ⟨n, hv, hsent, hfits⟩
      exact .same hv hsent hfits

end

/-! ## Null -/

/-- Null is sent as null where it is let through, and it stands for no integer. -/
theorem Sends.nullPassthrough {f : Formatter} {s : Scalar} {shape : Value → Prop}
    (h : Sends f none (.scalar s) false shape) :
    Sends f.nullPassthrough none (.scalar s) true fun r => r.isNull = true ∨ shape r where
  total {v} hv m := by
    cases hv with
    | null => exact ⟨.null, rfl⟩
    | scalar hs =>
      rw [Formatter.nullPassthrough, Scalar.isNull_of_holds hs]
      exact h.total (.scalar hs) m
  shaped {v m r} hr := by
    unfold Formatter.nullPassthrough at hr
    split at hr
    · cases hr
      exact .inl rfl
    · exact .inr (h.shaped hr)
  keeps {v m r} hr := by
    unfold Formatter.nullPassthrough at hr
    split at hr
    · rename_i hnull
      rw [Value.eq_null_of_isNull hnull]
      cases hr
      exact .null rfl
    · exact (h.keeps hr).of_required true

end Formatter
end Ingest
