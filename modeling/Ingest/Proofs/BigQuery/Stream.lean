import Ingest.Proofs.BigQuery.Server
import Ingest.Proofs.Json.Lines

/-!
# What a client receives

Rows are sent as one payload, which holds an object for each of them. `stream` puts payloads
together; two streams of objects are the same exactly if each object alone is sent the same
(`stream_ofObjects_eq_iff`), be it as an object or as a line. `Accepts` is a client that takes
whatever it is sent and keeps it.
-/

namespace Ingest
namespace BigQuery

/-! ## Objects of rows -/

/-- The object that a row is sent as under a schema. -/
def rowObject (s : Schema) (row : Row) : Outcome Json := do
  let format ← RowFormat.ofSchema mapper s
  (format.format row).map (Row.toJson .widened)

/-- Objects as they are sent. -/
def Payload.ofObjects (kind : WriterKind) (objects : List Json) : Payload :=
  match kind with
  | .streaming => .objects objects
  | .loadJob => .lines (lineText objects)

/-- The payload that rows are sent as under a schema. -/
def Config.payload (config : Config) (s : Schema) (rows : List Row) : Outcome Payload := do
  let format ← RowFormat.ofSchema mapper s
  Payload.ofRows config.writer format rows

theorem rowObjects_eq_ok_iff {format : RowFormat ColumnType} {rows : List Row}
    {objects : List Json} :
    rowObjects format rows = .ok objects ↔
      rows.map (fun row => (format.format row).map (Row.toJson .widened)) = objects.map .ok := by
  rw [rowObjects, RowFormat.formatAll, Outcome.map_mapM, Outcome.mapM_eq_ok_iff_map]

theorem ofRows_eq (kind : WriterKind) (format : RowFormat ColumnType) (rows : List Row) :
    Payload.ofRows kind format rows = (rowObjects format rows).map (Payload.ofObjects kind) := by
  unfold Payload.ofRows
  cases rowObjects format rows with
  | error e => rfl
  | ok objects => cases kind <;> rfl

/-- A payload holds an object for each row. -/
theorem payload_eq_ok {config : Config} {s : Schema} {rows : List Row} {p : Payload}
    (h : config.payload s rows = .ok p) :
    ∃ objects, rows.map (rowObject s) = objects.map .ok ∧
      p = Payload.ofObjects config.writer objects := by
  rcases Outcome.bind_eq_ok h with ⟨format, hformat, hp⟩
  rw [ofRows_eq] at hp
  rcases Outcome.map_eq_ok hp with ⟨objects, hobjects, hp⟩
  refine ⟨objects, ?_, hp.symm⟩
  rw [← rowObjects_eq_ok_iff.1 hobjects]
  apply List.map_congr_left
  intro row _
  rw [rowObject, hformat]
  rfl

/-- Rows have a payload if each of them has an object. -/
theorem payload_of_objects (config : Config) {s : Schema} {rows : List Row} (hrows : rows ≠ [])
    {objects : List Json} (h : rows.map (rowObject s) = objects.map .ok) :
    config.payload s rows = .ok (.ofObjects config.writer objects) := by
  unfold rowObject at h
  unfold Config.payload
  cases hformat : RowFormat.ofSchema mapper s with
  | error e =>
    -- Without a format not even the first row has an object.
    rcases List.exists_cons_of_ne_nil hrows with ⟨row, rest, rfl⟩
    rw [hformat] at h
    cases objects with
    | nil => cases h
    | cons o objects => cases (List.cons.inj h).1
  | ok format =>
    rw [hformat] at h
    change Payload.ofRows config.writer format rows = _
    rw [ofRows_eq, rowObjects_eq_ok_iff.2 h]
    rfl

theorem payload_singleton {config : Config} {s : Schema} {row : Row} {o : Json}
    (h : rowObject s row = .ok o) :
    config.payload s [row] = .ok (.ofObjects config.writer [o]) := by
  apply payload_of_objects config (List.cons_ne_nil row [])
  rw [List.map_singleton, h, List.map_singleton]

theorem exists_rowObject {config : Config} {s : Schema} {row : Row} {p : Payload}
    (h : config.payload s [row] = .ok p) : ∃ o, rowObject s row = .ok o := by
  rcases payload_eq_ok h with ⟨objects, hobjects, -⟩
  cases objects with
  | nil => cases hobjects
  | cons o objects => exact ⟨o, (List.cons.inj hobjects).1⟩

/-! ## Streams -/

/-- The objects and the text of a payload. -/
def Payload.parts : Payload → List Json × String
  | .objects rows => (rows, "")
  | .lines text => ([], text)

/-- What payloads hold one after the other. -/
def stream (payloads : List Payload) : List Json × String :=
  (payloads.flatMap fun p => p.parts.1, String.join (payloads.map fun p => p.parts.2))

theorem stream_append (ps qs : List Payload) :
    stream (ps ++ qs) = ((stream ps).1 ++ (stream qs).1, (stream ps).2 ++ (stream qs).2) := by
  simp [stream]

/-- What was received before does not matter. -/
theorem stream_append_eq_iff {ps qs qs' : List Payload} :
    stream (ps ++ qs) = stream (ps ++ qs') ↔ stream qs = stream qs' := by
  rw [stream_append, stream_append, Prod.mk.injEq, List.append_cancel_left_eq,
    String.append_right_inj, ← Prod.ext_iff]

theorem lineText_append (xs ys : List Json) : lineText (xs ++ ys) = lineText xs ++ lineText ys := by
  simp [lineText]

theorem stream_ofObjects_append (kind : WriterKind) (xs ys : List Json) :
    stream [.ofObjects kind (xs ++ ys)] = stream [.ofObjects kind xs, .ofObjects kind ys] := by
  cases kind with
  | streaming => simp [stream, Payload.ofObjects, Payload.parts]
  | loadJob => simp [stream, Payload.ofObjects, Payload.parts, lineText_append]

/-- Objects that are sent before others lengthen the stream in front. -/
theorem stream_cons_ofObjects {kind : WriterKind} {xs : List Json} {ps : List Payload}
    (h : stream ps = stream [.ofObjects kind xs]) (os : List Json) :
    stream (.ofObjects kind os :: ps) = stream [.ofObjects kind (os ++ xs)] :=
  calc
    stream (.ofObjects kind os :: ps)
        = stream ([.ofObjects kind os] ++ ps) := rfl
    _ = stream ([.ofObjects kind os] ++ [.ofObjects kind xs]) := stream_append_eq_iff.2 h
    _ = stream [.ofObjects kind (os ++ xs)] := (stream_ofObjects_append kind os xs).symm

theorem stream_nil (kind : WriterKind) : stream [] = stream [.ofObjects kind []] := by
  cases kind <;> rfl

theorem lineText_cons (x : Json) (xs : List Json) :
    (lineText (x :: xs)).toList = x.text.toList ++ '\n' :: (lineText xs).toList := by
  simp [lineText]

/-- Texts of lines are the same exactly if the lines are. -/
theorem lineText_eq_iff {xs ys : List Json} :
    lineText xs = lineText ys ↔ List.Forall₂ (fun x y => lineText [x] = lineText [y]) xs ys := by
  constructor
  · intro h
    induction xs generalizing ys with
    | nil =>
      cases ys with
      | nil => exact .nil
      | cons y ys =>
        have hchars := congrArg String.toList h
        rw [lineText_cons] at hchars
        simp [lineText] at hchars
    | cons x xs ih =>
      cases ys with
      | nil =>
        have hchars := congrArg String.toList h
        rw [lineText_cons] at hchars
        simp [lineText] at hchars
      | cons y ys =>
        have hchars := congrArg String.toList h
        rw [lineText_cons, lineText_cons] at hchars
        -- The first line feed ends the first line of either text.
        rcases Text.line_inj x.newline_not_mem_text y.newline_not_mem_text hchars with
          ⟨htext, hrest⟩
        refine .cons ?_ (ih (String.toList_inj.1 hrest))
        rw [lineText, lineText, List.map_singleton, List.map_singleton, String.toList_inj.1 htext]
  · intro h
    induction h with
    | nil => rfl
    | @cons x y xs ys hxy _ ih =>
      rw [← List.singleton_append, lineText_append, hxy, ih, ← lineText_append,
        List.singleton_append]

theorem stream_ofObjects_eq_iff {kind : WriterKind} {xs ys : List Json} :
    stream [Payload.ofObjects kind xs] = stream [Payload.ofObjects kind ys] ↔
      List.Forall₂ (fun x y => Payload.ofObjects kind [x] = Payload.ofObjects kind [y]) xs ys := by
  cases kind with
  | streaming =>
    have hsame : ∀ x y : Json, Payload.ofObjects .streaming [x] = Payload.ofObjects .streaming [y] ↔
        x = y := by
      simp [Payload.ofObjects]
    simp only [hsame, List.forall₂_eq_eq_eq]
    simp [stream, Payload.ofObjects, Payload.parts]
  | loadJob =>
    have hsame : ∀ x y : Json, Payload.ofObjects .loadJob [x] = Payload.ofObjects .loadJob [y] ↔
        lineText [x] = lineText [y] := by
      simp [Payload.ofObjects]
    -- Texts of lines are compared line by line, as no line contains a line feed.
    simp only [hsame, ← lineText_eq_iff]
    simp [stream, Payload.ofObjects, Payload.parts]

/-- Streams of the same rows under two schemas each are the same exactly if each row alone is sent
the same under both. -/
theorem stream_eq_iff_alike {config : Config} {sendings : List (Schema × Schema × Row)}
    {xs ys : List Json}
    (hx : sendings.map (fun t => rowObject t.1 t.2.2) = xs.map .ok)
    (hy : sendings.map (fun t => rowObject t.2.1 t.2.2) = ys.map .ok) :
    stream [.ofObjects config.writer xs] = stream [.ofObjects config.writer ys] ↔
      ∀ t ∈ sendings, config.payload t.1 [t.2.2] = config.payload t.2.1 [t.2.2] := by
  rw [stream_ofObjects_eq_iff]
  induction sendings generalizing xs ys with
  | nil =>
    have hxs : xs = [] := by simpa using hx.symm
    have hys : ys = [] := by simpa using hy.symm
    simp [hxs, hys]
  | cons t rest ih =>
    rcases List.map_eq_cons_iff.1 hx.symm with ⟨x, xs, rfl, hfirst, hxs⟩
    rcases List.map_eq_cons_iff.1 hy.symm with ⟨y, ys, rfl, hfirst', hys⟩
    -- The payload of a single row is its object alone.
    have hsame : config.payload t.1 [t.2.2] = config.payload t.2.1 [t.2.2] ↔
        Payload.ofObjects config.writer [x] = Payload.ofObjects config.writer [y] := by
      rw [payload_singleton hfirst.symm, payload_singleton hfirst'.symm, Except.ok.injEq]
    rw [List.forall₂_cons, List.forall_mem_cons, hsame, ih hxs.symm hys.symm]

/-! ## Clients that accept everything -/

variable {σ : Type}

/-- A client that takes in time whatever it is sent, and what it has received. -/
structure Accepts (config : Config) (client : Client σ) (table : String)
    (received : σ → List Payload) : Prop where
  accepted : ∀ p st, (config.send client table p st).1.answer = .ok ()
  inTime : ∀ p st, (config.send client table p st).1.delay ≤ config.queryTimeoutMs
  kept : ∀ p st, received (config.send client table p st).2 = received st ++ [p]

section Writes

variable {config : Config} {client : Client σ} {table : String} {s : Schema} {rows : List Row}

/-- Rows that have a payload are received as it. -/
theorem Accepts.run_write {received : σ → List Payload}
    (a : Accepts config client table received) (hrows : rows ≠ []) {p : Payload}
    (hp : config.payload s rows = .ok p) (c : Clocked σ) :
    ∃ c', (config.write client table s rows).run c = (.ok (), c') ∧
      received c'.server = received c.server ++ [p] := by
  rcases Outcome.bind_eq_ok hp with ⟨format, hformat, hpayload⟩
  have hcall : (Action.timed config ("write " ++ config.qualified table)
      (config.send client table p)).run c = (.ok _, _) := Effect.run_timed_of_le (a.inTime p c.server)
  rw [a.accepted p c.server] at hcall
  have hsome : rows.isEmpty = false := by
    simpa using hrows
  let answered := config.send client table p c.server
  refine ⟨⟨answered.2, c.now + answered.1.delay⟩, ?_, a.kept p c.server⟩
  unfold Config.write
  rw [hsome, hformat, if_neg Bool.false_ne_true]
  rw [Effect.run_bind_of_ok (Effect.run_ofOutcome _ _), hpayload]
  rw [Effect.run_bind_of_ok (Effect.run_ofOutcome _ _), Effect.run_bind_of_ok hcall]
  rfl

/-- Rows without a payload are refused before anything is sent. -/
theorem run_write_of_error (hrows : rows ≠ []) {e : Failure}
    (hp : config.payload s rows = .error e) (c : Clocked σ) :
    (config.write client table s rows).run c = (.error e, c) := by
  have hsome : rows.isEmpty = false := by
    simpa using hrows
  unfold Config.write
  rw [hsome, if_neg Bool.false_ne_true]
  rcases Outcome.bind_eq_error hp with hformat | ⟨format, hformat, hpayload⟩
  · rw [hformat]
    rfl
  -- The schema has a format, and one of the rows does not fit it.
  · rw [hformat, Effect.run_bind_of_ok (Effect.run_ofOutcome _ _), hpayload]
    rfl

end Writes

end BigQuery
end Ingest
