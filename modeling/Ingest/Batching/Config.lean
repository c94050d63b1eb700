import Ingest.Calendar.Span
import Ingest.Failure
import Ingest.Json.Basic

/-!
# Batching configuration

How many rows of a table may wait, and for how long.
-/

namespace Ingest
namespace Batching

/-- The configuration of a batching driver. The interval is in milliseconds. -/
structure Config where
  /-- As many waiting rows of one table are written without waiting longer. -/
  maxBatchSize : Nat := 5000
  flushIntervalMs : Nat := 1000
  deriving DecidableEq

namespace Config

def flushInterval (c : Config) : Calendar.Span :=
  .ofMillis c.flushIntervalMs

/-- Refuses settings that are zero. -/
def validate (c : Config) : Outcome Unit := do
  if c.maxBatchSize = 0 then
    throw (.invalidConfig "max_batch_size must be positive")
  if c.flushIntervalMs = 0 then
    throw (.invalidConfig "flush_interval_ms must be positive")

theorem flushIntervalMs_pos_of_validate {c : Config} (h : c.validate = .ok ()) :
    0 < c.flushIntervalMs := by
  by_cases h₁ : c.maxBatchSize = 0
  · rw [validate, if_pos h₁] at h
    cases h
  · by_cases h₂ : c.flushIntervalMs = 0
    · rw [validate, if_neg h₁, if_pos h₂] at h
      cases h
    · omega

/-- Reads a configuration, in which everything may be absent. -/
def ofJson? (j : Json) : Option Config := do
  let r ← j.record? ["max_batch_size", "flush_interval_ms"]
  let d : Config := {}
  return {
    maxBatchSize := ← r.defaulted "max_batch_size" d.maxBatchSize (Json.asNat? (pow2 64))
    flushIntervalMs :=
      ← r.defaulted "flush_interval_ms" d.flushIntervalMs (Json.asNat? (pow2 64)) }

end Config
end Batching
end Ingest
