import Ingest.Driver.Basic

/-!
# Recording driver

A driver that keeps what it is given: the tables created, the columns of each and the batches
written. It can be told to fail the next writes.
-/

namespace Ingest

/-- What was recorded, in order. -/
structure Recorder where
  created : List String := []
  added : List (String × Field) := []
  writes : List Batch := []
  failRemaining : Nat := 0
  failedAttempts : Nat := 0

namespace Recorder

def hasTable (r : Recorder) (table : String) : Bool :=
  r.created.any (· == table)

def hasColumn (r : Recorder) (table column : String) : Bool :=
  r.added.any fun e => e.1 == table && e.2.name == column

def failNext (r : Recorder) (n : Nat) : Recorder :=
  { r with failRemaining := n }

def totalRows (r : Recorder) : Nat :=
  r.writes.foldl (fun n w => n + w.rows.length) 0

/-- Records a table and its columns, unless it exists. -/
def createTable (table : String) (schema : Schema) (r : Recorder) : Outcome Unit × Recorder :=
  if r.hasTable table then (.error (.tableAlreadyExists table), r)
  else
    (.ok (), { r with
      created := r.created ++ [table]
      added := r.added ++ schema.fields.map fun f => (table, f) })

/-- Records a column of an existing table, unless it exists. -/
def addColumn (table : String) (field : Field) (r : Recorder) : Outcome Unit × Recorder :=
  if !r.hasTable table then (.error (.tableNotFound table), r)
  else if r.hasColumn table field.name then (.error (.columnAlreadyExists table field.name), r)
  else (.ok (), { r with added := r.added ++ [(table, field)] })

def missingColumns (table : String) (schema : Schema) (r : Recorder) :
    Outcome (List Field) × Recorder :=
  if !r.hasTable table then (.error (.tableNotFound table), r)
  else (.ok (schema.fields.filter fun f => !r.hasColumn table f.name), r)

/-- Records a batch, or fails if it was told to; no rows are no batch. -/
def write (table : String) (schema : Schema) (rows : List Row) (r : Recorder) :
    Outcome Unit × Recorder :=
  if rows.isEmpty then (.ok (), r)
  else if 0 < r.failRemaining then
    (.error (.backend ("injected write failure for " ++ table) []),
      { r with failRemaining := r.failRemaining - 1, failedAttempts := r.failedAttempts + 1 })
  else (.ok (), { r with writes := r.writes ++ [⟨table, schema, rows⟩] })

def driver : Driver (StateM Recorder) where
  createTable table schema := ExceptT.mk (createTable table schema)
  addColumn table field := ExceptT.mk (addColumn table field)
  missingColumns table schema := ExceptT.mk (missingColumns table schema)
  write table schema rows := ExceptT.mk (write table schema rows)

end Recorder
end Ingest
