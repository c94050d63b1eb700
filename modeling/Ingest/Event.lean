/-!
# Log events

What is worth noting while rows are on their way: a level, a message and named details.
-/

namespace Ingest

/-- How much an event matters. -/
inductive Level where
  | debug
  | info
  | warn
  deriving DecidableEq, Repr

namespace Level

def name : Level → String
  | debug => "DEBUG"
  | info => "INFO"
  | warn => "WARN"

end Level

/-- A detail of an event. -/
inductive Detail where
  | text (s : String)
  | count (n : Nat)
  deriving DecidableEq, Repr

/-- Something worth noting. -/
structure Event where
  level : Level
  message : String
  details : List (String × Detail)
  deriving DecidableEq, Repr

namespace Event

def about (level : Level) (message table : String) (details : List (String × Detail)) : Event :=
  ⟨level, message, ("table", .text table) :: details⟩

end Event
end Ingest
