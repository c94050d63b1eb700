import Ingest.Proofs.BigQuery.Expiration
import Ingest.Proofs.BigQuery.Stream
import Ingest.Proofs.Format.Row
import Ingest.Proofs.Json.Compact
import Ingest.Proofs.Text.Bytes

/-!
# One call for all rows

Rows are written by one call, or by none. If a row cannot be sent, either writer fails before its
call, with the error of the first such row at the first of its fields that cannot be sent. Otherwise
either writer makes one call: one sends a list with an object for each row, the other the texts of
the same objects, each on a line of its own (`writers_agree`).
-/

namespace Ingest
namespace BigQuery

open Effect RowFormat

variable {σ : Type} {config : Config} {client : Client σ} {table : String} {s : Schema}
  {format : RowFormat ColumnType} {rows : List Row}

/-! ## Rows that can be sent and rows that cannot -/

/-- The members of the object of a row: for each field, what its value is sent as. -/
structure Renders (s : Schema) (row : Row) (members : List (String × Json)) : Prop where
  names : (members.map (·.1)).Perm (s.fields.map (·.name))
  values : ∀ f ∈ s.fields, ∃ v, sentValue mapper f row = .ok v ∧
    (f.name, v.toJson .widened) ∈ members

/-- The first row that cannot be sent, with the first of its fields whose value cannot. -/
structure FirstRefusal (s : Schema) (rows before : List Row) (row : Row) (left : List Field)
    (field : Field) (e : Failure) : Prop where
  row_follows : before ++ [row] <+: rows
  sent_before : ∀ r ∈ before, ∀ f ∈ s.fields, ∃ v, sentValue mapper f r = .ok v
  field_follows : left ++ [field] <+: s.fields
  sent_left : ∀ f ∈ left, ∃ v, sentValue mapper f row = .ok v
  refused : sentValue mapper field row = .error e

theorem membersToJson_eq_map (form : SingleForm) (members : List (String × Value)) :
    Value.membersToJson form members = members.map fun e => (e.1, e.2.toJson form) := by
  induction members with
  | nil => rfl
  | cons e rest ih => rw [Value.membersToJson, ih, List.map_cons]

/-- A row that formats is sent as an object. -/
theorem exists_renders {row out : Row} (hformat : ofSchema mapper s = .ok format)
    (h : format.format row = .ok out) :
    ∃ members, Renders s row members ∧ Row.toJson .widened out = .object members := by
  rcases perm_of_format hformat h with ⟨cells, hperm, hsent⟩
  refine ⟨Value.membersToJson .widened out, ⟨?_, fun f hf => ?_⟩, rfl⟩
  · have hnames : cells.map (·.1) = s.fields.map (·.name) :=
      Outcome.map_eq_of_forall₂ (fun _ _ h => h.1) hsent
    rw [membersToJson_eq_map, List.map_map, ← hnames]
    exact hperm.map _
  · rcases Outcome.exists_of_forall₂ hsent.flip hf with ⟨e, he, hname, hvalue⟩
    refine ⟨e.2, hvalue, ?_⟩
    rw [membersToJson_eq_map, ← hname]
    exact List.mem_map_of_mem (hperm.mem_iff.2 he)

/-- Rows that all format are sent as one object each. -/
theorem exists_renders_all (hformat : ofSchema mapper s = .ok format) {objects : List Json}
    (h : rowObjects format rows = .ok objects) :
    ∃ members, List.Forall₂ (Renders s) rows members ∧ objects = members.map .object := by
  have hrow : ∀ row o, (format.format row).map (Row.toJson .widened) = .ok o →
      ∃ members, Renders s row members ∧ o = .object members := by
    intro row o ho
    rcases Outcome.map_eq_ok ho with ⟨out, hout, rfl⟩
    exact exists_renders hformat hout
  rw [rowObjects, formatAll, Outcome.map_mapM, Outcome.mapM_eq_ok_iff] at h
  induction h with
  | nil => exact ⟨[], .nil, rfl⟩
  | cons ho _ ih =>
    rcases hrow _ _ ho with ⟨members, hmembers, rfl⟩
    rcases ih with ⟨rest, hrest, rfl⟩
    exact ⟨members :: rest, .cons hmembers hrest, rfl⟩

/-- If not all rows format there is a first one that does not. -/
theorem exists_firstRefusal (hformat : ofSchema mapper s = .ok format) {e : Failure}
    (h : rowObjects format rows = .error e) :
    ∃ before row left field, FirstRefusal s rows before row left field e := by
  rcases Outcome.exists_first_of_mapM (Outcome.map_eq_error h) with
    ⟨before, row, hrow, hbefore, hfail⟩
  rcases exists_first_of_format hformat hfail with ⟨left, field, hfield, hleft, hrefused⟩
  refine ⟨before, row, left, field, hrow, fun r hr f hf => ?_, hfield, hleft, hrefused⟩
  rcases hbefore r hr with ⟨out, hout⟩
  rcases get?_of_format hformat hout hf with ⟨v, hv, -⟩
  exact ⟨v, hv⟩

/-! ## The call -/

/-- The call that sends a payload. -/
def Payload.request (dataset table : String) : Payload → Request
  | .objects rows => .insert dataset table rows
  | .lines text => .load dataset table text

/-- One call is made, and rows count as written exactly if it is granted in time. -/
def Sends (config : Config) (r : Request) (xs : List Noted) (o : Outcome Unit) : Prop :=
  ∃ n, xs = [n] ∧ n.request = r ∧ (o = .ok () ↔ n.granted = true ∧ ¬ n.Late config)

theorem send_noted (p : Payload) :
    config.send client.noted table p =
      noting (p.request config.dataset table) (config.send client table p) := by
  cases p <;> rfl

theorem notes_write (hrows : rows ≠ []) {p : Payload} (hp : config.payload s rows = .ok p) :
    Notes notesOf (Sends config (p.request config.dataset table))
      (config.write client.noted table s rows) := by
  rcases Outcome.bind_eq_ok hp with ⟨format, hformat, hpayload⟩
  have hsome : rows.isEmpty = false := by
    simpa using hrows
  unfold Config.write
  rw [hsome, if_neg Bool.false_ne_true, hformat]
  simp only [ofOutcome_ok_bind, hpayload, send_noted]
  refine Notes.bind (Action.notes_timed config _ _ _) ?_ ?_
  · rintro xs e ⟨reply, rfl, ⟨-, ⟨⟩⟩ | ⟨hlate, -⟩⟩
    exact ⟨_, rfl, rfl, iff_of_false nofun fun h => h.2 hlate⟩
  rintro xs answer ⟨⟨answer', delay⟩, rfl, ⟨hinTime, hanswer⟩ | ⟨-, ⟨⟩⟩⟩
  cases hanswer
  cases answer' with
  | ok u => exact Notes.pure ⟨_, rfl, rfl, iff_of_true rfl ⟨rfl, Nat.not_lt.2 hinTime⟩⟩
  | error e => exact Notes.throw ⟨_, rfl, rfl, iff_of_false nofun fun h => Bool.noConfusion h.1⟩

/-! ## Both writers -/

/-- A configuration with one of the writers. -/
def Config.through (config : Config) (kind : WriterKind) : Config :=
  { config with writer := kind }

theorem payload_through (config : Config) (kind : WriterKind)
    (hformat : ofSchema mapper s = .ok format) :
    (config.through kind).payload s rows =
      (rowObjects format rows).map (Payload.ofObjects kind) := by
  rw [Config.payload, hformat]
  exact ofRows_eq kind format rows

/-- Each object stands on a line of its own. -/
theorem splitOn_bytes_lineText (objects : List Json) :
    (Text.bytes (lineText objects)).splitOn Text.lineFeed =
      (objects.map Json.text).map Text.bytes ++ [[]] := by
  have hlines : lineText objects = String.join ((objects.map Json.text).map (· ++ "\n")) := by
    rw [lineText, List.map_map]
    rfl
  have hnewline : ∀ line ∈ objects.map Json.text, '\n' ∉ line.toList := by
    intro line hline
    rcases List.mem_map.1 hline with ⟨o, -, rfl⟩
    exact o.newline_not_mem_text
  rw [hlines, Text.splitOn_bytes_lines hnewline]

theorem compact_text (j : Json) : j.Compact j.text.toList := by
  rw [Json.text, String.toList_ofList]
  exact Json.compact_chars j

/-- Either a row cannot be sent, and then both writers fail with the error of the first such row at
the first of its fields that cannot be sent, and make no call; or each makes one call, and the
payloads hold the same objects, one for each row in the order of the rows: as a list, or as lines
of their compact texts behind which nothing stands. -/
theorem writers_agree (config : Config) (client : Client σ) (table : String)
    (hformat : ofSchema mapper s = .ok format) (hrows : rows ≠ []) :
    (∃ before row left field e, FirstRefusal s rows before row left field e ∧
      ∀ kind c, ((config.through kind).write client.noted table s rows).run c = (.error e, c)) ∨
    ∃ objects lines texts, List.Forall₂ (Renders s) rows objects ∧
      Notes notesOf (Sends config (.insert config.dataset table (objects.map .object)))
        ((config.through .streaming).write client.noted table s rows) ∧
      Notes notesOf (Sends config (.load config.dataset table lines))
        ((config.through .loadJob).write client.noted table s rows) ∧
      List.Forall₂ (fun members text => (Json.object members).Compact text.toList) objects texts ∧
      (Text.bytes lines).splitOn Text.lineFeed = texts.map Text.bytes ++ [[]] := by
  cases hobjects : rowObjects format rows with
  | error e =>
    left
    rcases exists_firstRefusal hformat hobjects with ⟨before, row, left, field, hrefusal⟩
    refine ⟨before, row, left, field, e, hrefusal, fun kind c => run_write_of_error hrows ?_ c⟩
    rw [payload_through config kind hformat, hobjects]
    rfl
  | ok sent =>
    right
    rcases exists_renders_all hformat hobjects with ⟨objects, hrenders, rfl⟩
    have hpayload : ∀ kind, (config.through kind).payload s rows =
        .ok (.ofObjects kind (objects.map .object)) := by
      intro kind
      rw [payload_through config kind hformat, hobjects]
      rfl
    refine ⟨objects, lineText (objects.map .object), (objects.map .object).map Json.text, hrenders,
      ?_, ?_, ?_, splitOn_bytes_lineText _⟩
    · exact notes_write hrows (hpayload .streaming)
    · exact notes_write hrows (hpayload .loadJob)
    · rw [List.map_map]
      exact List.forall₂_map_right_iff.2 (List.forall₂_same.2 fun members _ => compact_text _)

/-- The schema of a number and a remark about it. -/
def remarked : Schema :=
  ⟨[.plain "n" (.scalar .int64) false, .plain "remark" (.scalar .string) true], by decide⟩

/-- A row without a remark, but with something that its schema does not know. -/
def unremarked : Row :=
  [("extra", .bool true), ("n", .int64 1)]

/-- The row is sent by one call of either writer. -/
theorem writers_agree_unremarked :
    let config : Config := { projectId := "p", dataset := "d" }
    ∃ objects lines texts, List.Forall₂ (Renders remarked) [unremarked] objects ∧
      Notes notesOf (Sends config (.insert "d" "t" (objects.map .object)))
        ((config.through .streaming).write keeper.noted "t" remarked [unremarked]) ∧
      Notes notesOf (Sends config (.load "d" "t" lines))
        ((config.through .loadJob).write keeper.noted "t" remarked [unremarked]) ∧
      List.Forall₂ (fun members text => (Json.object members).Compact text.toList) objects texts ∧
      (Text.bytes lines).splitOn Text.lineFeed = texts.map Text.bytes ++ [[]] := by
  intro config
  have hformat : ofSchema mapper remarked = .ok _ := rfl
  rcases writers_agree config keeper "t" hformat (List.cons_ne_nil unremarked []) with
    ⟨before, row, left, field, e, hrefusal, -⟩ | hsent
  · have hrow : row = unremarked :=
      List.mem_singleton.1 (hrefusal.row_follows.subset List.mem_concat_self)
    have hfield := hrefusal.field_follows.subset List.mem_concat_self
    have hrefused := hrefusal.refused
    rw [hrow] at hrefused
    simp only [remarked, List.mem_cons, List.not_mem_nil, or_false] at hfield
    rcases hfield with rfl | rfl
    · cases hrefused
    · cases hrefused
  · exact hsent

end BigQuery
end Ingest
