import Ingest.Json.Basic
import Mathlib.Data.List.Forall2
import Mathlib.Tactic.SplitIfs

/-!
# Compact texts

`Compact` says which text stands for a JSON value: no blanks, a comma between two items or members,
a colon between a key and its value, and texts between quotes with as few escapes as there can be.
Each value has exactly one such text (`compact_iff`).
-/

namespace Ingest
namespace Json

/-! ## Texts between quotes -/

/-- How a character is written between quotes. -/
inductive Escapes : Char → List Char → Prop
  | quote : Escapes '"' ['\\', '"']
  | backslash : Escapes '\\' ['\\', '\\']
  | backspace : Escapes '\x08' ['\\', 'b']
  | tab : Escapes '\t' ['\\', 't']
  | lineFeed : Escapes '\n' ['\\', 'n']
  | formFeed : Escapes '\x0c' ['\\', 'f']
  | carriageReturn : Escapes '\r' ['\\', 'r']
  | control {c : Char} : c ∉ ['\x08', '\t', '\n', '\x0c', '\r'] → c.toNat < 32 →
      Escapes c
        ['\\', 'u', '0', '0', Nat.digitChar (c.toNat / 16), Nat.digitChar (c.toNat % 16)]
  | plain {c : Char} : c ≠ '"' → c ≠ '\\' → 32 ≤ c.toNat → Escapes c [c]

/-- A text stands between quotes, character by character. -/
def Quoted (s : String) (text : List Char) : Prop :=
  ∃ parts, List.Forall₂ Escapes s.toList parts ∧ text = '"' :: (parts.flatten ++ ['"'])

theorem escapes_escaped (c : Char) : Escapes c (escaped c) := by
  unfold escaped
  split_ifs with hquote hbackslash hbackspace htab hline hform hreturn hcontrol
  · rw [beq_iff_eq.1 hquote]
    exact .quote
  · rw [beq_iff_eq.1 hbackslash]
    exact .backslash
  · rw [beq_iff_eq.1 hbackspace]
    exact .backspace
  · rw [beq_iff_eq.1 htab]
    exact .tab
  · rw [beq_iff_eq.1 hline]
    exact .lineFeed
  · rw [beq_iff_eq.1 hform]
    exact .formFeed
  · rw [beq_iff_eq.1 hreturn]
    exact .carriageReturn
  · rw [beq_iff_eq] at hbackspace htab hline hform hreturn
    refine .control ?_ hcontrol
    simp [hbackspace, htab, hline, hform, hreturn]
  · rw [beq_iff_eq] at hquote hbackslash
    exact .plain hquote hbackslash (Nat.not_lt.1 hcontrol)

theorem Escapes.eq_escaped {c : Char} {cs : List Char} (h : Escapes c cs) : cs = escaped c := by
  cases h with
  | control hnamed hcontrol =>
    have hquote : c ≠ '"' := by
      rintro rfl
      exact absurd hcontrol (by decide)
    have hbackslash : c ≠ '\\' := by
      rintro rfl
      exact absurd hcontrol (by decide)
    simp only [List.mem_cons, List.not_mem_nil, or_false, not_or] at hnamed
    simp [escaped, hquote, hbackslash, hnamed, hcontrol]
  | plain hquote hbackslash hplain =>
    -- The characters with a letter of their own are controls.
    have hnamed : c ∉ ['\x08', '\t', '\n', '\x0c', '\r'] := by
      intro hmem
      simp only [List.mem_cons, List.not_mem_nil, or_false] at hmem
      rcases hmem with rfl | rfl | rfl | rfl | rfl <;> exact absurd hplain (by decide)
    simp only [List.mem_cons, List.not_mem_nil, or_false, not_or] at hnamed
    simp [escaped, hquote, hbackslash, hnamed, Nat.not_lt.2 hplain]
  | _ => decide

theorem quoted_iff {s : String} {text : List Char} : Quoted s text ↔ text = stringText s := by
  constructor
  · rintro ⟨parts, hparts, rfl⟩
    have hchars : List.Forall₂ (· = ·) parts (s.toList.map escaped) :=
      List.forall₂_map_right_iff.2 (hparts.flip.imp fun _ _ h => h.eq_escaped)
    rw [List.forall₂_eq_eq_eq] at hchars
    rw [hchars]
    rfl
  · rintro rfl
    refine ⟨s.toList.map escaped, ?_, rfl⟩
    exact List.forall₂_map_right_iff.2 (List.forall₂_same.2 fun c _ => escapes_escaped c)

/-! ## Values -/

mutual

/-- The text of a value. Integers are written without leading zeros, other numbers in their
style. -/
inductive Compact : Json → List Char → Prop
  | null : Compact null "null".toList
  | true : Compact (bool true) "true".toList
  | false : Compact (bool false) "false".toList
  | int (n : Int) : Compact (int n) (toString n).toList
  | decimal (style : Decimal.Style) (d : Decimal) : Compact (decimal style d) (d.styled style)
  | string {s : String} {text : List Char} : Quoted s text → Compact (string s) text
  | array {items : List Json} {text : List Char} : CompactItems items text →
      Compact (array items) ('[' :: (text ++ [']']))
  | object {members : List (String × Json)} {text : List Char} : CompactMembers members text →
      Compact (object members) ('\x7b' :: (text ++ ['\x7d']))

inductive CompactItems : List Json → List Char → Prop
  | none : CompactItems [] []
  | last {item : Json} {text : List Char} : Compact item text → CompactItems [item] text
  | more {item next : Json} {rest : List Json} {text texts : List Char} : Compact item text →
      CompactItems (next :: rest) texts → CompactItems (item :: next :: rest) (text ++ ',' :: texts)

inductive CompactMembers : List (String × Json) → List Char → Prop
  | none : CompactMembers [] []
  | last {key : String} {value : Json} {name text : List Char} : Quoted key name →
      Compact value text → CompactMembers [(key, value)] (name ++ ':' :: text)
  | more {key : String} {value : Json} {next : String × Json} {rest : List (String × Json)}
      {name text texts : List Char} : Quoted key name → Compact value text →
      CompactMembers (next :: rest) texts →
        CompactMembers ((key, value) :: next :: rest) (name ++ ':' :: text ++ ',' :: texts)

end

theorem chars_int (n : Int) : (int n).chars = (toString n).toList := by
  rw [← Text.intText_eq_toString, Text.intText, String.toList_ofList, chars]

mutual

theorem compact_chars : (j : Json) → Compact j j.chars
  | null => .null
  | bool Bool.true => .true
  | bool Bool.false => .false
  | int n => by
    rw [chars_int]
    exact .int n
  | decimal style d => by
    rw [chars]
    exact .decimal style d
  | string s => by
    rw [chars]
    exact .string (quoted_iff.2 rfl)
  | array items => by
    rw [chars]
    exact .array (compactItems_chars items)
  | object members => by
    rw [chars]
    exact .object (compactMembers_chars members)

theorem compactItems_chars : (items : List Json) → CompactItems items (itemChars items)
  | [] => .none
  | [item] => by
    rw [itemChars]
    exact .last (compact_chars item)
  | item :: next :: rest => by
    rw [itemChars]
    exact .more (compact_chars item) (compactItems_chars (next :: rest))

theorem compactMembers_chars :
    (members : List (String × Json)) → CompactMembers members (memberChars members)
  | [] => .none
  | [(key, value)] => by
    rw [memberChars]
    exact .last (quoted_iff.2 rfl) (compact_chars value)
  | (key, value) :: next :: rest => by
    rw [memberChars]
    exact .more (quoted_iff.2 rfl) (compact_chars value) (compactMembers_chars (next :: rest))

end

mutual

theorem Compact.eq_chars {j : Json} {text : List Char} : Compact j text → text = j.chars
  | .null => rfl
  | .true => rfl
  | .false => rfl
  | .int n => by rw [chars_int]
  | .decimal style d => by rw [chars]
  | .string h => by rw [chars, quoted_iff.1 h]
  | .array h => by
    rw [h.eq_chars, chars]
    rfl
  | .object h => by
    rw [h.eq_chars, chars]
    rfl

theorem CompactItems.eq_chars {items : List Json} {text : List Char} :
    CompactItems items text → text = itemChars items
  | .none => by rw [itemChars]
  | .last h => by rw [h.eq_chars, itemChars]
  | .more h hs => by rw [h.eq_chars, hs.eq_chars, itemChars]

theorem CompactMembers.eq_chars {members : List (String × Json)} {text : List Char} :
    CompactMembers members text → text = memberChars members
  | .none => by rw [memberChars]
  | .last hname h => by rw [quoted_iff.1 hname, h.eq_chars, memberChars]
  | .more hname h hs => by rw [quoted_iff.1 hname, h.eq_chars, hs.eq_chars, memberChars]

end

/-- The text of a value is compact, and no other text is that stands for it. -/
theorem compact_iff {j : Json} {text : List Char} : Compact j text ↔ text = j.chars := by
  constructor
  · exact Compact.eq_chars
  · rintro rfl
    exact compact_chars j

end Json
end Ingest
