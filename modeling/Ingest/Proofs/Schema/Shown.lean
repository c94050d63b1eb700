import Ingest.Schema.DataType
import Ingest.Text.Quoted
import Mathlib.Data.List.Forall2
import Mathlib.Tactic.SplitIfs

/-!
# How types and names are shown

Messages name a type by a text with all its parts, and put names between double quotes.
`TypeText` says which text shows a type, and `Shown` which one shows a name. Each type and each
name has exactly one (`typeText_iff`, `shown_iff`).
-/

namespace Ingest

/-! ## Types -/

/-- How a unit of time is written in a message. -/
inductive UnitText : TimeUnit → String → Prop
  | second : UnitText .second "s"
  | millisecond : UnitText .millisecond "ms"
  | microsecond : UnitText .microsecond "us"
  | nanosecond : UnitText .nanosecond "ns"

inductive ScalarText : Scalar → String → Prop
  | string : ScalarText .string "string"
  | bool : ScalarText .bool "bool"
  | int32 : ScalarText .int32 "int32"
  | int64 : ScalarText .int64 "int64"
  | float32 : ScalarText .float32 "float32"
  | float64 : ScalarText .float64 "float64"
  | date32 : ScalarText .date32 "date32"
  | timestamp {unit : TimeUnit} {u : String} : UnitText unit u →
      ScalarText (.timestamp unit none) ("timestamp[" ++ u ++ "]")
  | zoned {unit : TimeUnit} {u : String} (zone : String) : UnitText unit u →
      ScalarText (.timestamp unit (some zone)) ("timestamp[" ++ u ++ ", tz=" ++ zone ++ "]")
  | binary : ScalarText .binary "binary"

mutual

inductive TypeText : DataType → String → Prop
  | scalar {s : Scalar} {text : String} : ScalarText s text → TypeText (.scalar s) text
  | list {element : DataType} {text : String} : TypeText element text →
      TypeText (.list element) ("list<" ++ text ++ ">")
  | struct {fields : List Field} {text : String} : MembersText fields text →
      TypeText (.struct fields) ("struct<" ++ text ++ ">")

/-- The members of a record, each with its name in front and separated by commas. -/
inductive MembersText : List Field → String → Prop
  | none : MembersText [] ""
  | last {name text : String} {type : DataType} {nullable : Bool} {metadata : Metadata} :
      TypeText type text → MembersText [⟨name, type, nullable, metadata⟩] (name ++ ": " ++ text)
  | more {name text rest : String} {type : DataType} {nullable : Bool} {metadata : Metadata}
      {f : Field} {fs : List Field} : TypeText type text → MembersText (f :: fs) rest →
        MembersText (⟨name, type, nullable, metadata⟩ :: f :: fs)
          (name ++ ": " ++ text ++ ", " ++ rest)

end

theorem unitText_symbol (u : TimeUnit) : UnitText u u.symbol := by
  cases u <;> constructor

theorem UnitText.eq_symbol {u : TimeUnit} {text : String} (h : UnitText u text) :
    text = u.symbol := by
  cases h <;> rfl

theorem scalarText_text (s : Scalar) : ScalarText s s.text := by
  cases s with
  | timestamp unit zone =>
    cases zone with
    | none => exact .timestamp (unitText_symbol unit)
    | some zone => exact .zoned zone (unitText_symbol unit)
  | _ => constructor

theorem ScalarText.eq_text {s : Scalar} {text : String} (h : ScalarText s text) :
    text = s.text := by
  cases h with
  | timestamp hunit =>
    rw [hunit.eq_symbol]
    rfl
  | zoned zone hunit =>
    rw [hunit.eq_symbol]
    rfl
  | _ => rfl

mutual

theorem typeText_text : (t : DataType) → TypeText t t.text
  | .scalar s => by
    rw [DataType.text]
    exact .scalar (scalarText_text s)
  | .list element => by
    rw [DataType.text]
    exact .list (typeText_text element)
  | .struct fields => by
    rw [DataType.text]
    exact .struct (membersText_text fields)

theorem membersText_text : (fields : List Field) → MembersText fields (fieldsText fields)
  | [] => .none
  | [⟨_, type, _, _⟩] => by
    rw [fieldsText]
    exact .last (typeText_text type)
  | ⟨_, type, _, _⟩ :: f :: fs => by
    rw [fieldsText]
    exact .more (typeText_text type) (membersText_text (f :: fs))

end

mutual

theorem TypeText.eq_text {t : DataType} {text : String} : TypeText t text → text = t.text
  | .scalar h => by rw [h.eq_text, DataType.text]
  | .list h => by rw [h.eq_text, DataType.text]
  | .struct h => by rw [h.eq_text, DataType.text]

theorem MembersText.eq_text {fields : List Field} {text : String} :
    MembersText fields text → text = fieldsText fields
  | .none => by rw [fieldsText]
  | .last h => by rw [h.eq_text, fieldsText]
  | .more h hs => by rw [h.eq_text, hs.eq_text, fieldsText]

end

/-- The text of a type shows it, and no other text does. -/
theorem typeText_iff {t : DataType} {text : String} : TypeText t text ↔ text = t.text := by
  constructor
  · exact TypeText.eq_text
  · rintro rfl
    exact typeText_text t

/-! ## Names -/

/-- A character that stands for itself between quotes: a mark or a space of its own. -/
def Printable (c : Char) : Prop :=
  (32 ≤ c.toNat ∧ c.toNat < 127) ∨
    (128 ≤ c.toNat ∧ ∀ range ∈ Text.unprintableRanges ++ Text.extendingRanges,
      c.toNat < range.1 ∨ range.2 < c.toNat)

/-- How a character is written between double quotes. -/
inductive ShownChar : Char → List Char → Prop
  | quote : ShownChar '"' ['\\', '"']
  | backslash : ShownChar '\\' ['\\', '\\']
  | lineFeed : ShownChar '\n' ['\\', 'n']
  | carriageReturn : ShownChar '\r' ['\\', 'r']
  | tab : ShownChar '\t' ['\\', 't']
  | null : ShownChar '\x00' ['\\', '0']
  | plain {c : Char} : c ≠ '"' → c ≠ '\\' → Printable c → ShownChar c [c]
  | code {c : Char} : c ∉ ['\n', '\r', '\t', '\x00'] → ¬ Printable c →
      ShownChar c (['\\', 'u', '\x7b'] ++ Nat.toDigits 16 c.toNat ++ ['\x7d'])

/-- A name is shown between double quotes, character by character. -/
def Shown (name text : String) : Prop :=
  ∃ parts, List.Forall₂ ShownChar name.toList parts ∧
    text.toList = '"' :: (parts.flatten ++ ['"'])

theorem inRanges_eq_false_iff {ranges : List (Nat × Nat)} {n : Nat} :
    Text.inRanges ranges n = false ↔ ∀ range ∈ ranges, n < range.1 ∨ range.2 < n := by
  rw [Text.inRanges, List.any_eq_false]
  refine forall₂_congr fun range _ => ?_
  rw [Bool.and_eq_true, decide_eq_true_eq, decide_eq_true_eq]
  omega

theorem isPrintable_iff {c : Char} : Text.isPrintable c = true ↔ Printable c := by
  have hascii : c.val < 128 ↔ c.toNat < 128 := UInt32.lt_iff_toNat_lt
  unfold Text.isPrintable Printable
  split
  · rename_i hsmall
    have hn := hascii.1 hsmall
    rw [Bool.and_eq_true, decide_eq_true_eq, decide_eq_true_eq, UInt32.le_iff_toNat_le,
      UInt32.lt_iff_toNat_lt]
    change 32 ≤ c.toNat ∧ c.toNat < 127 ↔ _
    omega
  · rename_i hlarge
    have hn : ¬ c.toNat < 128 := fun h => hlarge (hascii.2 h)
    rw [Bool.and_eq_true, Bool.not_eq_true', Bool.not_eq_true', inRanges_eq_false_iff,
      inRanges_eq_false_iff, ← List.forall_mem_append]
    constructor
    · exact fun h => .inr ⟨Nat.not_lt.1 hn, h⟩
    · rintro (h | h)
      · omega
      · exact h.2

theorem shownChar_quotedChar (c : Char) : ShownChar c (Text.quotedChar c) := by
  unfold Text.quotedChar
  split_ifs with hquote hbackslash hline hreturn htab hnull hprintable
  · rw [beq_iff_eq.1 hquote]
    exact .quote
  · rw [beq_iff_eq.1 hbackslash]
    exact .backslash
  · rw [beq_iff_eq.1 hline]
    exact .lineFeed
  · rw [beq_iff_eq.1 hreturn]
    exact .carriageReturn
  · rw [beq_iff_eq.1 htab]
    exact .tab
  · rw [beq_iff_eq.1 hnull]
    exact .null
  · rw [beq_iff_eq] at hquote hbackslash
    exact .plain hquote hbackslash (isPrintable_iff.1 hprintable)
  · rw [beq_iff_eq] at hline hreturn htab hnull
    refine .code ?_ fun h => hprintable (isPrintable_iff.2 h)
    simp [hline, hreturn, htab, hnull]

/-- A character that stands for itself has no letter of its own: those that have are controls. -/
theorem Printable.not_mem_controls {c : Char} (h : Printable c) :
    c ∉ ['\n', '\r', '\t', '\x00'] := by
  have hle : 32 ≤ c.toNat := by
    rcases h with h | h <;> omega
  intro hmem
  simp only [List.mem_cons, List.not_mem_nil, or_false] at hmem
  rcases hmem with rfl | rfl | rfl | rfl <;> exact absurd hle (by decide)

theorem ShownChar.eq_quotedChar {c : Char} {cs : List Char} (h : ShownChar c cs) :
    cs = Text.quotedChar c := by
  cases h with
  | plain hquote hbackslash hprintable =>
    have hcontrols := hprintable.not_mem_controls
    simp only [List.mem_cons, List.not_mem_nil, or_false, not_or] at hcontrols
    simp [Text.quotedChar, hquote, hbackslash, hcontrols, isPrintable_iff.2 hprintable]
  | code hcontrols hprintable =>
    have hquote : c ≠ '"' := by
      rintro rfl
      exact hprintable (.inl (by decide))
    have hbackslash : c ≠ '\\' := by
      rintro rfl
      exact hprintable (.inl (by decide))
    simp only [List.mem_cons, List.not_mem_nil, or_false, not_or] at hcontrols
    simp [Text.quotedChar, Text.hexDigits, hquote, hbackslash, hcontrols,
      mt isPrintable_iff.1 hprintable]
  | _ => decide

/-- The text between quotes shows a name, and no other text does. -/
theorem shown_iff {name text : String} : Shown name text ↔ text = Text.quoted name := by
  constructor
  · rintro ⟨parts, hparts, htext⟩
    have hchars : List.Forall₂ (· = ·) parts (name.toList.map Text.quotedChar) :=
      List.forall₂_map_right_iff.2 (hparts.flip.imp fun _ _ h => h.eq_quotedChar)
    rw [List.forall₂_eq_eq_eq] at hchars
    apply String.toList_injective
    rw [htext, hchars, Text.quoted, String.toList_ofList]
    rfl
  · rintro rfl
    refine ⟨name.toList.map Text.quotedChar, ?_, ?_⟩
    · exact List.forall₂_map_right_iff.2 (List.forall₂_same.2 fun c _ => shownChar_quotedChar c)
    · rw [Text.quoted, String.toList_ofList]
      rfl

end Ingest
