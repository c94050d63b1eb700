import Ingest.ClickHouse.TypeName.Parser
import Ingest.Proofs.Text.Runs

/-!
# Tokens of written types

What the scanner makes of a text, part by part (`Scans`), and the plain types: their names are words
and their zones need no escapes (`TypeName.Plain`).
-/

namespace Ingest
namespace ClickHouse

/-! ## Words -/

/-- A run of word characters that are not digits alone. -/
def isWord (s : String) : Bool :=
  s.toList.all Token.isWordChar && !s.toList.all Text.isDigit

theorem isWord_ofList {cs : List Char} :
    isWord (String.ofList cs) = (cs.all Token.isWordChar && !cs.all Text.isDigit) := by
  rw [isWord, String.toList_ofList]

theorem isWordChar_of_isDigit {c : Char} (h : Text.isDigit c = true) :
    Token.isWordChar c = true := by
  have hdigit : c.isDigit = true := h
  show ((c.isAlpha || c.isDigit) || c == '_') = true
  rw [hdigit, Bool.or_true, Bool.true_or]

theorem range_of_isWordChar {c : Char} (h : Token.isWordChar c = true) :
    48 ≤ c.toNat ∧ c.toNat ≤ 122 := by
  have hkinds : (((c.isUpper || c.isLower) || c.isDigit) || c == '_') = true := h
  simp only [Bool.or_eq_true, beq_iff_eq] at hkinds
  rcases hkinds with ((hupper | hlower) | hdigit) | rfl
  · have hrange : 65 ≤ c.toNat ∧ c.toNat ≤ 90 := of_decide_eq_true hupper
    exact ⟨Nat.le_trans (by decide) hrange.1, Nat.le_trans hrange.2 (by decide)⟩
  · rcases Bool.and_eq_true_iff.1 hlower with ⟨hlow, hhigh⟩
    have hrange : 97 ≤ c.toNat ∧ c.toNat ≤ 122 :=
      ⟨of_decide_eq_true hlow, of_decide_eq_true hhigh⟩
    exact ⟨Nat.le_trans (by decide) hrange.1, hrange.2⟩
  · have hrange : 48 ≤ c.toNat ∧ c.toNat ≤ 57 := Char.isDigit_iff_toNat.1 hdigit
    exact ⟨hrange.1, Nat.le_trans hrange.2 (by decide)⟩
  · decide

/-- A word character means nothing else to the scanner. -/
theorem special_of_isWordChar {c : Char} (h : Token.isWordChar c = true) :
    Text.isBlank c = false ∧ c ≠ '(' ∧ c ≠ ')' ∧ c ≠ ',' ∧ c ≠ '\'' := by
  -- Blanks and marks lie outside the range of the word characters.
  rcases range_of_isWordChar h with ⟨hlow, hhigh⟩
  refine ⟨?_, ?_, ?_, ?_, ?_⟩
  · simp [Text.isBlank]
    omega
  all_goals
    rintro rfl
    exact absurd hlow (by decide)

/-! ## Written forms -/

/-- The written form of a type with parameters. -/
def parameterized (name : String) (inner : List Char) : List Char :=
  name.toList ++ '(' :: (inner ++ [')'])

theorem parameterized_of_opening {opening name : String} (h : opening.toList = name.toList ++ ['('])
    (inner : List Char) : opening.toList ++ inner ++ [')'] = parameterized name inner := by
  simp [parameterized, h]

namespace TypeName

theorem chars_dateTime64 (precision : Nat) :
    (dateTime64 precision none).chars =
      parameterized "DateTime64" (Text.digits precision) :=
  parameterized_of_opening (by decide) (Text.digits precision)

theorem chars_dateTime64_zone (precision : Nat) (zone : String) :
    (dateTime64 precision (some zone)).chars =
      parameterized "DateTime64"
        (Text.digits precision ++ ',' :: ' ' :: '\'' :: (zone.toList ++ ['\''])) := by
  have hname : "DateTime64(".toList = "DateTime64".toList ++ ['('] := by decide
  show "DateTime64(".toList ++ Text.digits precision ++ ", '".toList ++ zone.toList ++
    "')".toList = _
  simp [parameterized, hname]

theorem chars_array (element : TypeName) :
    (array element).chars = parameterized "Array" element.chars :=
  parameterized_of_opening (by decide) element.chars

theorem chars_nullable (inner : TypeName) :
    (nullable inner).chars = parameterized "Nullable" inner.chars :=
  parameterized_of_opening (by decide) inner.chars

theorem chars_lowCardinality (inner : TypeName) :
    (lowCardinality inner).chars = parameterized "LowCardinality" inner.chars :=
  parameterized_of_opening (by decide) inner.chars

theorem chars_nested (columns : List (String × TypeName)) :
    (nested columns).chars = parameterized "Nested" (columnChars columns) :=
  parameterized_of_opening (by decide) (columnChars columns)

theorem chars_other (text : String) : (other text).chars = text.toList := rfl

theorem columnChars_singleton (name : String) (type : TypeName) :
    columnChars [(name, type)] = name.toList ++ ' ' :: type.chars := rfl

theorem columnChars_cons (name : String) (type : TypeName) (next : String × TypeName)
    (rest : List (String × TypeName)) :
    columnChars ((name, type) :: next :: rest) =
      name.toList ++ ' ' :: type.chars ++ ',' :: ' ' :: columnChars (next :: rest) := rfl

end TypeName

/-! ## Scanning -/

/-- A text is split into tokens. -/
def Scans (total : Nat) (cs : List Char) (ts : List Token) : Prop :=
  ∃ ls, scan total cs = .ok ls ∧ ls.map (·.token) = ts

/-- A text does not continue a run of word characters. -/
def Breaks (cs : List Char) : Prop :=
  ∀ c ∈ cs.head?, Token.isWordChar c = false

theorem Breaks.of_char {c : Char} {cs : List Char} (h : Token.isWordChar c = false) :
    Breaks (c :: cs) :=
  Text.ends_cons h

theorem span_of_breaks {run cs : List Char} (hrun : ∀ c ∈ run, Token.isWordChar c = true)
    (hcs : Breaks cs) :
    (run ++ cs).takeWhile Token.isWordChar = run ∧
      (run ++ cs).dropWhile Token.isWordChar = cs :=
  ⟨Text.takeWhile_run hrun hcs, Text.dropWhile_run hrun hcs⟩

namespace Scans

variable {total : Nat} {cs : List Char} {ts : List Token}

theorem nil : Scans total [] [] :=
  ⟨[], by simp [scan], rfl⟩

theorem opening (h : Scans total cs ts) : Scans total ('(' :: cs) (.opening :: ts) := by
  rcases h with ⟨ls, hscan, rfl⟩
  rw [Scans, scan]
  simp [Text.isBlank, hscan, Except.map]

theorem closing (h : Scans total cs ts) : Scans total (')' :: cs) (.closing :: ts) := by
  rcases h with ⟨ls, hscan, rfl⟩
  rw [Scans, scan]
  simp [Text.isBlank, hscan, Except.map]

theorem comma (h : Scans total cs ts) : Scans total (',' :: cs) (.comma :: ts) := by
  rcases h with ⟨ls, hscan, rfl⟩
  rw [Scans, scan]
  simp [Text.isBlank, hscan, Except.map]

theorem literal {text rest : List Char} (hread : readLiteral cs = some (text, rest))
    (h : Scans total rest ts) :
    Scans total ('\'' :: cs) (.quoted (String.ofList text) :: ts) := by
  rcases h with ⟨ls, hscan, rfl⟩
  rw [Scans, scan]
  -- A quote is none of the characters that the scanner looks for first.
  have hblank : Text.isBlank '\'' = false := by decide
  have hopening : '\'' ≠ '(' := by decide
  have hclosing : '\'' ≠ ')' := by decide
  have hcomma : '\'' ≠ ',' := by decide
  simp only [hblank, hopening, hclosing, hcomma, Bool.false_eq_true, if_false, if_true]
  split
  · rename_i hnone
    rw [hread] at hnone
    cases hnone
  · rename_i r hsome
    rw [hread] at hsome
    cases hsome
    rw [hscan]
    exact ⟨_, rfl, rfl⟩

theorem run {run : List Char} (hne : run ≠ []) (hrun : run.all Token.isWordChar = true)
    (hbreaks : Breaks cs) (h : Scans total cs ts) :
    Scans total (run ++ cs) (.ofRun run :: ts) := by
  rcases h with ⟨ls, hscan, rfl⟩
  cases run with
  | nil => exact absurd rfl hne
  | cons c run =>
    simp only [List.all_cons, Bool.and_eq_true] at hrun
    rcases special_of_isWordChar hrun.1 with ⟨hblank, hopening, hclosing, hcomma, hquote⟩
    -- The run ends where the text does not continue it.
    have hspan := span_of_breaks (List.all_eq_true.1 hrun.2) hbreaks
    rw [Scans, List.cons_append, scan]
    simp only [hblank, hopening, hclosing, hcomma, hquote, hrun.1, Bool.false_eq_true, if_false,
      if_true, hspan, hscan]
    exact ⟨_, rfl, rfl⟩

theorem word {name : String} (hname : isWord name = true) (hbreaks : Breaks cs)
    (h : Scans total cs ts) : Scans total (name.toList ++ cs) (.word name :: ts) := by
  simp only [isWord, Bool.and_eq_true, Bool.not_eq_true'] at hname
  have hne : name.toList ≠ [] := by
    intro hnil
    rw [hnil] at hname
    exact absurd hname.2 (by decide)
  have hrun := run hne hname.1 hbreaks h
  -- A run that is not of digits alone is a word.
  rw [Token.ofRun, hname.2, if_neg Bool.false_ne_true, String.ofList_toList] at hrun
  exact hrun

end Scans

/-! ## Plain types -/

/-- A name of a zone that needs no escapes in a literal. -/
def PlainZone (zone : String) : Prop :=
  '\'' ∉ zone.toList ∧ '\\' ∉ zone.toList

mutual

/-- A type whose written form can be read again. -/
def TypeName.Plain : TypeName → Prop
  | .named name => isWord name = true
  | .dateTime64 precision zone => precision ≤ 255 ∧ ∀ z ∈ zone, PlainZone z
  | .array element => element.Plain
  | .nullable inner => inner.Plain
  | .lowCardinality inner => inner.Plain
  | .nested columns => columns ≠ [] ∧ PlainColumns columns
  | .other _ => False

def PlainColumns : List (String × TypeName) → Prop
  | [] => True
  | (name, type) :: rest => isWord name = true ∧ type.Plain ∧ PlainColumns rest

end

mutual

/-- The tokens of the written form. -/
def TypeName.tokens : TypeName → List Token
  | .named name => [.word name]
  | .dateTime64 precision none =>
    .word "DateTime64" :: .opening :: ([.number (Text.natText precision)] ++ [.closing])
  | .dateTime64 precision (some zone) =>
    .word "DateTime64" :: .opening ::
      ([.number (Text.natText precision), .comma, .quoted zone] ++ [.closing])
  | .array element => .word "Array" :: .opening :: (element.tokens ++ [.closing])
  | .nullable inner => .word "Nullable" :: .opening :: (inner.tokens ++ [.closing])
  | .lowCardinality inner => .word "LowCardinality" :: .opening :: (inner.tokens ++ [.closing])
  | .nested columns => .word "Nested" :: .opening :: (columnTokens columns ++ [.closing])
  | .other _ => []

def columnTokens : List (String × TypeName) → List Token
  | [] => []
  | [(name, type)] => .word name :: type.tokens
  | (name, type) :: next :: rest =>
    .word name :: (type.tokens ++ .comma :: columnTokens (next :: rest))

end

end ClickHouse
end Ingest
