/-!
# Decimal digits of natural numbers

`digits n` writes `n` in base ten without leading zeros and `ofDigits` reads a run of digits.
`padded` fills up with zeros on the left. Main statement: `ofDigits_digits`.
-/

namespace Ingest
namespace Text

def isDigit (c : Char) : Bool :=
  '0' ≤ c && c ≤ '9'

def digitChar (d : Nat) : Char :=
  Char.ofNat (48 + d % 10)

def digitValue (c : Char) : Nat :=
  c.toNat - 48

/-- The digits of a number in base ten, the highest first. -/
def digits (n : Nat) : List Char :=
  if n < 10 then [digitChar n] else digits (n / 10) ++ [digitChar (n % 10)]
termination_by n

def ofDigits (cs : List Char) : Nat :=
  cs.foldl (fun acc c => 10 * acc + digitValue c) 0

/-- The digits of `n`, with zeros in front up to the given width. -/
def padded (width n : Nat) : List Char :=
  List.replicate (width - (digits n).length) '0' ++ digits n

/-- The decimal text of an integer; only a negative one has a sign. -/
def integer (n : Int) : List Char :=
  if n < 0 then '-' :: digits n.natAbs else digits n.natAbs

def natText (n : Nat) : String :=
  String.ofList (digits n)

def intText (n : Int) : String :=
  String.ofList (integer n)

theorem digitValue_digitChar {d : Nat} (h : d < 10) : digitValue (digitChar d) = d := by
  match d, h with
  | 0, _ | 1, _ | 2, _ | 3, _ | 4, _ | 5, _ | 6, _ | 7, _ | 8, _ | 9, _ => rfl

theorem isDigit_digitChar (d : Nat) : isDigit (digitChar d) = true := by
  have h : d % 10 < 10 := Nat.mod_lt _ (by decide)
  unfold digitChar
  match d % 10, h with
  | 0, _ | 1, _ | 2, _ | 3, _ | 4, _ | 5, _ | 6, _ | 7, _ | 8, _ | 9, _ => rfl

theorem digits_ne_nil (n : Nat) : digits n ≠ [] := by
  unfold digits
  split <;> simp

theorem ofDigits_append_singleton (cs : List Char) (c : Char) :
    ofDigits (cs ++ [c]) = 10 * ofDigits cs + digitValue c := by
  simp [ofDigits, List.foldl_append]

theorem ofDigits_digits (n : Nat) : ofDigits (digits n) = n := by
  induction n using digits.induct with
  | case1 n h =>
    rw [digits, if_pos h]
    simp [ofDigits, digitValue_digitChar h]
  | case2 n h ih =>
    rw [digits, if_neg h, ofDigits_append_singleton, ih,
      digitValue_digitChar (Nat.mod_lt _ (by decide))]
    omega

theorem all_isDigit_digits (n : Nat) : (digits n).all isDigit = true := by
  induction n using digits.induct with
  | case1 n h =>
    rw [digits, if_pos h]
    simp [isDigit_digitChar]
  | case2 n h ih =>
    rw [digits, if_neg h]
    simp [List.all_append, ih, isDigit_digitChar]

theorem digitChar_eq {d : Nat} (h : d < 10) : digitChar d = d.digitChar := by
  match d, h with
  | 0, _ | 1, _ | 2, _ | 3, _ | 4, _ | 5, _ | 6, _ | 7, _ | 8, _ | 9, _ => rfl

theorem digits_eq_toDigits (n : Nat) : digits n = Nat.toDigits 10 n := by
  induction n using digits.induct with
  | case1 n h => rw [digits, if_pos h, Nat.toDigits_of_lt_base h, digitChar_eq h]
  | case2 n h ih =>
    rw [digits, if_neg h, Nat.toDigits_eq_if (by decide), if_neg h, ih,
      digitChar_eq (Nat.mod_lt _ (by decide))]

theorem natText_eq_toString (n : Nat) : natText n = toString n := by
  rw [natText, digits_eq_toDigits]
  rfl

theorem intText_eq_toString (n : Int) : intText n = toString n := by
  cases n with
  | ofNat m => exact natText_eq_toString m
  | negSucc m =>
    have hminus : toString (Int.negSucc m) = "-" ++ toString (m + 1) := rfl
    apply String.toList_injective
    rw [hminus, ← natText_eq_toString]
    simp [intText, integer, natText, Int.negSucc_lt_zero]

end Text
end Ingest
