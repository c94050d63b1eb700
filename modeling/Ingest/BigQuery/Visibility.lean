import Ingest.BigQuery.Client
import Ingest.BigQuery.Config

/-!
# Visibility of created tables

A created table may become visible only after a while. It is looked up every half second until it
is found, until the service reports another error or until the time is up. A look that takes too
long counts like one that did not find the table. A look that starts late moves all later ones.
-/

namespace Ingest
namespace BigQuery

def lookInterval : Nat := 500

/-- A look that starts at most this much late does not move the later ones. -/
def lookTolerance : Nat := 5

/-- When the next look is due, after one that was due and one that was started at a time. -/
def nextDue (due start : Nat) : Nat :=
  (if due + lookTolerance < start then start else due) + lookInterval

theorem lt_nextDue (due start : Nat) : due < nextDue due start := by
  unfold nextDue lookInterval lookTolerance
  split <;> omega

/-- What a look tells. -/
inductive Look where
  | visible
  | notYet
  | failed (error : ApiError)
  deriving DecidableEq

/-- Looks a table up, with the time that a call may take. -/
def look {σ : Type} (limit : Nat) (lookup : Call σ ApiError TableMetadata) (c : Clocked σ) :
    Look × Clocked σ :=
  match Clocked.await limit lookup c with
  | (some (.ok _), c) => (.visible, c)
  | (some (.error e), c) => (if e.isNotFound then .notYet else .failed e, c)
  | (none, c) => (.notYet, c)

/-- Looks a table up from the time `due` on, until it is visible or the deadline has passed;
`none` means that it has passed. -/
def awaitVisible {σ : Type} (limit : Nat) (lookup : Call σ ApiError TableMetadata)
    (deadline due : Nat) (c : Clocked σ) : Option (Except ApiError Unit) × Clocked σ :=
  if _h : deadline < due then (none, c.waitUntil deadline)
  else
    let ready := c.waitUntil due
    let looked := look limit lookup ready
    -- An answer after the deadline does not count, whatever it says.
    if deadline < looked.2.now then (none, { looked.2 with now := deadline })
    else
      match looked.1 with
      | .visible => (some (.ok ()), looked.2)
      | .failed e => (some (.error e), looked.2)
      | .notYet => awaitVisible limit lookup deadline (nextDue due ready.now) looked.2
termination_by deadline + 1 - due
decreasing_by
  have := lt_nextDue due (c.waitUntil due).now
  omega

end BigQuery
end Ingest
