import Ingest.Failure
import Ingest.Text.Letter

/-!
# Identifiers

The names of tables and columns that statements and requests may hold: letters of any script,
ASCII digits, the underscore, the hyphen and the full stop.
-/

namespace Ingest
namespace Identifier

/-- A character that a name may hold. -/
def allows (c : Char) : Bool :=
  Text.isDigit c || c == '.' || c == '_' || c == '-' || Text.isLetter c

/-- Refuses the empty name and names the first character that is not allowed. -/
def validate (name : String) : Outcome Unit :=
  if name.isEmpty then .error (.invalidIdentifier "" "identifier must not be empty")
  else
    match name.toList.find? fun c => !allows c with
    | some c =>
      .error (.invalidIdentifier name
        ("identifier contains invalid character '" ++ String.singleton c ++ "'"))
    | none => .ok ()

theorem validate_eq_error {name : String} {e : Failure} (h : validate name = .error e) :
    ∃ reason, e = .invalidIdentifier name reason := by
  unfold validate at h
  split at h
  · rename_i hempty
    cases h
    rw [String.isEmpty_iff.1 hempty]
    exact ⟨_, rfl⟩
  · split at h
    · cases h
      exact ⟨_, rfl⟩
    · cases h

/-- A name between backticks; a backtick inside is written twice. -/
def backticked (name : String) : String :=
  String.ofList ('\x60' :: name.toList.flatMap (fun c => if c == '\x60' then [c, c] else [c]) ++
    ['\x60'])

def qualified (container table : String) : String :=
  container ++ "." ++ table

end Identifier
end Ingest
