import Ingest.ClickHouse.TypeName.Basic
import Ingest.ClickHouse.TypeName.Token
import Ingest.Text.Quoted

/-!
# Reading ClickHouse type names

`TypeName.parse` reads the text of a type as a server reports it. A type is a word, a word with
parameters that the library knows, or any other word with balanced parentheses behind it.
-/

namespace Ingest
namespace ClickHouse

/-- A text that is no type name. -/
structure ParseFailure where
  input : String
  fault : ParseFault
  deriving DecidableEq

namespace ParseFailure

def message (f : ParseFailure) : String :=
  "cannot parse clickhouse type " ++ Text.quoted f.input ++ " at offset " ++
    Text.natText f.fault.offset ++ ": " ++ f.fault.problem.message

end ParseFailure

namespace TypeName

/-- Where a list of tokens begins in a text of `total` bytes. -/
def startOf (total : Nat) : List Lexeme → Nat
  | [] => total
  | l :: _ => l.offset

def failAt {α : Type} (total : Nat) (tokens : List Lexeme) (p : ParseProblem) :
    Except ParseFault (α × List Lexeme) :=
  .error ⟨startOf total tokens, p⟩

def parseClosing {α : Type} (total : Nat) (a : α) :
    List Lexeme → Except ParseFault (α × List Lexeme)
  | ⟨_, .closing⟩ :: rest => .ok (a, rest)
  | tokens => failAt total tokens .expectedClosing

/-- Reads the zone after a comma that begins at `comma`. -/
def parseZone (total comma precision : Nat) :
    List Lexeme → Except ParseFault (TypeName × List Lexeme)
  | ⟨_, .quoted zone⟩ :: rest => .ok (dateTime64 precision (some zone), rest)
  -- At the end of the text the fault lies at the comma that nothing follows.
  | [] => .error ⟨comma, .expectedZone⟩
  | tokens => failAt total tokens .expectedZone

/-- Reads the parameters of a timestamp after a parenthesis that begins at `opening`. -/
def parseDateTime64 (total opening : Nat) :
    List Lexeme → Except ParseFault (TypeName × List Lexeme)
  | ⟨_, .number digits⟩ :: rest =>
    let precision := Text.ofDigits digits.toList
    if precision ≤ 255 then
      match rest with
      | ⟨comma, .comma⟩ :: rest => parseZone total comma precision rest
      | rest => .ok (dateTime64 precision none, rest)
    else failAt total rest .precisionOutOfRange
  -- As for a zone: the fault lies at the parenthesis that nothing follows.
  | [] => .error ⟨opening, .expectedPrecision⟩
  | tokens => failAt total tokens .expectedPrecision

/-- Collects tokens up to the parenthesis that closes the `depth + 1` open ones. -/
def parseBalanced (total depth : Nat) :
    List Lexeme → Except ParseFault (List Token × List Lexeme)
  | [] => .error ⟨total, .unbalanced⟩
  | ⟨_, .closing⟩ :: rest =>
    match depth with
    | 0 => .ok ([], rest)
    | d + 1 => (parseBalanced total d rest).map fun r => (.closing :: r.1, r.2)
  | ⟨_, .opening⟩ :: rest =>
    (parseBalanced total (depth + 1) rest).map fun r => (.opening :: r.1, r.2)
  | ⟨_, t⟩ :: rest => (parseBalanced total depth rest).map fun r => (t :: r.1, r.2)

/-- The text of a type with parameters that is kept as it is: a blank follows every comma. -/
def otherText (name : String) (tokens : List Token) : String :=
  String.ofList (name.toList ++ '(' :: tokens.flatMap (fun t =>
    if t = .comma then [',', ' '] else t.chars) ++ [')'])

mutual

/-- Reads a type. Each step spends fuel; a fuel above the number of tokens never runs out. -/
def parseType (total fuel : Nat) (tokens : List Lexeme) :
    Except ParseFault (TypeName × List Lexeme) :=
  match fuel, tokens with
  | fuel + 1, ⟨_, .word name⟩ :: ⟨opening, .opening⟩ :: rest =>
    if name = "Array" then do
      let (t, rest) ← parseType total fuel rest
      parseClosing total (array t) rest
    else if name = "Nullable" then do
      let (t, rest) ← parseType total fuel rest
      parseClosing total (nullable t) rest
    else if name = "LowCardinality" then do
      let (t, rest) ← parseType total fuel rest
      parseClosing total (lowCardinality t) rest
    else if name = "Nested" then do
      let (columns, rest) ← parseColumns total fuel rest
      parseClosing total (nested columns) rest
    else if name = "DateTime64" then do
      let (t, rest) ← parseDateTime64 total opening rest
      parseClosing total t rest
    else do
      let (inner, rest) ← parseBalanced total 0 rest
      return (other (otherText name inner), rest)
  | _ + 1, ⟨_, .word name⟩ :: rest => .ok (named name, rest)
  | _, tokens => failAt total tokens .expectedIdentifier

/-- Reads one or more names with types, separated by commas. -/
def parseColumns (total fuel : Nat) (tokens : List Lexeme) :
    Except ParseFault (List (String × TypeName) × List Lexeme) :=
  match fuel, tokens with
  | fuel + 1, ⟨_, .word name⟩ :: rest => do
    let (t, rest) ← parseType total fuel rest
    match rest with
    | ⟨_, .comma⟩ :: rest => do
      let (columns, rest) ← parseColumns total fuel rest
      return ((name, t) :: columns, rest)
    | rest => return ([(name, t)], rest)
  | _, tokens => failAt total tokens .expectedIdentifier

end

/-- Reads a type from tokens; nothing may be left. -/
def ofTokens (total : Nat) (tokens : List Lexeme) : Except ParseFault TypeName := do
  let (t, rest) ← parseType total (tokens.length + 1) tokens
  if rest.isEmpty then return t else throw ⟨startOf total rest, .trailingInput⟩

def parse (input : String) : Except ParseFailure TypeName :=
  let cs := input.toList
  let total := byteSize cs
  ((scan total cs).bind (ofTokens total)).mapError (ParseFailure.mk input)

end TypeName
end ClickHouse
end Ingest
