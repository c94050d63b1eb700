import Ingest.Text.Classes
import Ingest.Text.Digits

/-!
# Tokens of ClickHouse type names

`scan` splits a text into words, numbers, quoted literals, parentheses and commas. Blanks separate
tokens and are dropped. Every token knows where it begins, counted in UTF-8 bytes.
-/

namespace Ingest
namespace ClickHouse

/-- A token of a type name. -/
inductive Token where
  /-- ASCII letters, digits and underscores, not digits alone. -/
  | word (text : String)
  /-- ASCII digits. -/
  | number (digits : String)
  /-- A literal in single quotes, without the quotes and escapes. -/
  | quoted (text : String)
  | opening
  | closing
  | comma
  deriving DecidableEq

/-- A token and the offset at which it begins. -/
structure Lexeme where
  offset : Nat
  token : Token
  deriving DecidableEq

/-- What is wrong with a text that is no type name. -/
inductive ParseProblem where
  | expectedIdentifier
  | expectedClosing
  | trailingInput
  | unterminatedLiteral
  | unexpectedCharacter (c : Char)
  | precisionOutOfRange
  | expectedPrecision
  | expectedZone
  | unbalanced
  deriving DecidableEq

/-- A problem and the offset at which it was met. -/
structure ParseFault where
  offset : Nat
  problem : ParseProblem
  deriving DecidableEq

namespace ParseProblem

def message : ParseProblem → String
  | expectedIdentifier => "expected identifier"
  | expectedClosing => "expected ')'"
  | trailingInput => "unexpected trailing input"
  | unterminatedLiteral => "unterminated string literal"
  | unexpectedCharacter c => "unexpected character '" ++ String.singleton c ++ "'"
  | precisionOutOfRange => "precision out of range"
  | expectedPrecision => "expected DateTime64 precision"
  | expectedZone => "expected quoted timezone"
  | unbalanced => "unbalanced parentheses"

end ParseProblem

namespace Token

def isWordChar (c : Char) : Bool :=
  c.isAlphanum || c == '_'

def ofRun (run : List Char) : Token :=
  if run.all Text.isDigit then number (String.ofList run) else word (String.ofList run)

/-- The text of a token. A quote inside a literal is escaped. -/
def chars : Token → List Char
  | word text => text.toList
  | number digits => digits.toList
  | quoted text =>
    '\'' :: text.toList.flatMap (fun c => if c == '\'' then ['\\', '\''] else [c]) ++ ['\'']
  | opening => ['(']
  | closing => [')']
  | comma => [',']

end Token

def byteSize : List Char → Nat
  | [] => 0
  | c :: cs => c.utf8Size + byteSize cs

/-- Reads a literal up to its closing quote; a backslash takes the next character as it is. -/
def readLiteral : List Char → Option (List Char × List Char)
  | [] => none
  | '\'' :: rest => some ([], rest)
  | '\\' :: c :: rest => (readLiteral rest).map fun r => (c :: r.1, r.2)
  | '\\' :: [] => none
  | c :: rest => (readLiteral rest).map fun r => (c :: r.1, r.2)

theorem length_lt_of_readLiteral {cs : List Char} {r : List Char × List Char}
    (h : readLiteral cs = some r) : r.2.length < cs.length := by
  induction cs using readLiteral.induct generalizing r with
  | case1 => simp [readLiteral] at h
  | case2 rest =>
    simp only [readLiteral, Option.some.injEq] at h
    subst h
    simp
  | case3 c rest ih =>
    simp only [readLiteral, Option.map_eq_some_iff] at h
    obtain ⟨s, hs, rfl⟩ := h
    have := ih hs
    simp only [List.length_cons]
    omega
  | case4 => simp [readLiteral] at h
  | case5 c rest h1 h2 h3 ih =>
    rw [readLiteral, Option.map_eq_some_iff] at h
    · obtain ⟨s, hs, rfl⟩ := h
      have := ih hs
      simp only [List.length_cons]
      omega
    · exact h1
    · exact h2
    · exact h3

theorem length_dropWhile_le (p : Char → Bool) (cs : List Char) :
    (cs.dropWhile p).length ≤ cs.length :=
  (List.dropWhile_sublist p).length_le

/-- Splits the rest of a text of `total` bytes into tokens. -/
def scan (total : Nat) (cs : List Char) : Except ParseFault (List Lexeme) :=
  match cs with
  | [] => .ok []
  | c :: rest =>
    let offset := total - byteSize (c :: rest)
    if Text.isBlank c then scan total rest
    else if c = '(' then (scan total rest).map (⟨offset, .opening⟩ :: ·)
    else if c = ')' then (scan total rest).map (⟨offset, .closing⟩ :: ·)
    else if c = ',' then (scan total rest).map (⟨offset, .comma⟩ :: ·)
    else if c = '\'' then
      match _h : readLiteral rest with
      | none => .error ⟨offset, .unterminatedLiteral⟩
      | some r => (scan total r.2).map (⟨offset, .quoted (String.ofList r.1)⟩ :: ·)
    else if Token.isWordChar c then
      (scan total (rest.dropWhile Token.isWordChar)).map
        (⟨offset, .ofRun (c :: rest.takeWhile Token.isWordChar)⟩ :: ·)
    else .error ⟨offset, .unexpectedCharacter c⟩
termination_by cs.length
decreasing_by
  · simp
  · simp
  · simp
  · simp
  · have := length_lt_of_readLiteral _h
    simp
    omega
  · have := length_dropWhile_le Token.isWordChar rest
    simp
    omega

end ClickHouse
end Ingest
