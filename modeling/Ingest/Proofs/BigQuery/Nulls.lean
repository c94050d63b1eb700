import Ingest.Proofs.BigQuery.Stream
import Ingest.Proofs.BigQuery.Wire
import Ingest.Proofs.Format.Finite
import Ingest.Proofs.Format.Row

/-!
# Nulls that are sent

A row is formatted and then sent as a JSON object. Null stands in the object where the formatted
row has null, and also where the row itself has a floating-point number that is not finite, which
JSON cannot express (`null_sent_iff`). A required column lets no null through, but it does let
such numbers through, and they are sent as null (`null_sent_for_infinity`).
-/

namespace Ingest
namespace BigQuery

/-! ## Columns keep numbers finite -/

section

variable {s : Scalar} {c : ColumnType}

theorem keepsFinite_timestampFormatter : timestampFormatter.KeepsFinite := by
  refine .of_sentWhole fun {v m r} hr => ?_
  rcases sendsTexts_timestampFormatter.text hr with ⟨x, rfl⟩
  cases v <;> first | exact ⟨fun _ => rfl, rfl⟩ | cases hr

theorem keepsFinite_scalarColumn (h : scalarColumn s = .ok c) : c.formatter.KeepsFinite :=
  Formatter.keepsFinite_ofScalar? keepsFinite_timestampFormatter (formatter_scalarColumn h)

theorem keepsFinite_scalarOrNullColumn {nullable : Bool}
    (h : scalarOrNullColumn s nullable = .ok c) : c.formatter.KeepsFinite := by
  rcases Outcome.map_eq_ok h with ⟨c₀, hc₀, rfl⟩
  have hkeeps := keepsFinite_scalarColumn hc₀
  cases nullable with
  | false => exact hkeeps
  | true => exact hkeeps.nullPassthrough

theorem keepsFinite_memberColumn {f : Field} {p : String × ColumnType}
    (h : memberColumn f = .ok p) : p.2.formatter.KeepsFinite := by
  rcases f with ⟨name, type, nullable, metadata⟩
  cases type with
  | scalar s =>
    rcases Outcome.map_eq_ok h with ⟨c, hc, rfl⟩
    exact keepsFinite_scalarOrNullColumn hc
  | _ => cases h

theorem keepsFinite_recordColumn {members : List Field} (h : recordColumn members = .ok c) :
    c.formatter.KeepsFinite := by
  rcases columns_of_recordColumn h with ⟨columns, hcolumns, rfl⟩
  refine .struct fun f hf => ?_
  rcases List.mem_map.1 hf with ⟨p, hp, rfl⟩
  rcases Outcome.exists_of_forall₂ hcolumns hp with ⟨g, -, hg⟩
  exact keepsFinite_memberColumn hg

theorem keepsFinite_elementColumn {element : DataType} (h : elementColumn element = .ok c) :
    c.formatter.KeepsFinite := by
  cases element with
  | list element => cases h
  | scalar s => exact keepsFinite_scalarColumn h
  | struct members => exact keepsFinite_recordColumn h

theorem keepsFinite_toColumn {t : NeutralType} (h : toColumn t = .ok c) :
    c.formatter.KeepsFinite := by
  rcases t with ⟨type, nullable, metadata⟩
  cases type with
  | scalar s => exact keepsFinite_scalarOrNullColumn h
  | list element =>
    rcases Outcome.map_eq_ok h with ⟨c₀, hc₀, rfl⟩
    exact (keepsFinite_elementColumn hc₀).list
  | struct members => exact keepsFinite_recordColumn (toColumn_struct_eq_ok h).2

/-! ## Required columns -/

/-- Only columns of scalars are required. -/
theorem scalarColumn_of_required {t : NeutralType} (h : toColumn t = .ok c)
    (hmode : c.mode = .required) : ∃ s, scalarColumn s = .ok c := by
  rcases t with ⟨type, nullable, metadata⟩
  cases type with
  | scalar s =>
    rcases Outcome.map_eq_ok h with ⟨c₀, hc₀, rfl⟩
    cases nullable with
    | false => exact ⟨s, hc₀⟩
    | true => cases hmode
  | list element =>
    rcases Outcome.map_eq_ok h with ⟨c₀, -, rfl⟩
    cases hmode
  | struct members =>
    rw [(recordColumn_eq_ok (toColumn_struct_eq_ok h).2).2.1] at hmode
    cases hmode

/-- A required column is never sent null. -/
theorem ne_null_of_required {t : NeutralType} {v r : Value} {m : Metadata}
    (h : toColumn t = .ok c) (hmode : c.mode = .required) (hr : c.formatter v m = .ok r) :
    r ≠ .null := by
  rintro rfl
  rcases scalarColumn_of_required h hmode with ⟨s, hs⟩
  have hformatter := formatter_scalarColumn hs
  cases Scalar.isNull_of_wire
    (Formatter.wire_of_format sendsTexts_timestampFormatter hformatter hr)

end

/-! ## Rows -/

section

variable {s : Schema} {format : RowFormat ColumnType} {row out : Row}

/-- What stands in a formatted row is finite exactly if what stands there in the row is. -/
theorem isFinite_of_format (hformat : RowFormat.ofSchema mapper s = .ok format)
    (h : format.format row = .ok out) {way : List Part} {u : Value}
    (hu : (Value.struct out).at? way = some u) : u.isFinite = (Value.struct row).finiteAt way := by
  cases way with
  | nil =>
    cases hu
    rfl
  | cons p way =>
    rcases Option.bind_eq_some_iff.1 hu with ⟨v, hv, hrest⟩
    cases p with
    | item i => cases hv
    | member name =>
      -- What is found under a name was sent by the column of the field of this name.
      rcases RowFormat.exists_of_get?_format hformat h hv with ⟨f, -, rfl, hsent⟩
      rcases Outcome.bind_eq_ok hsent with ⟨w, hw, hvalue⟩
      rw [Value.finiteAt_member]
      exact (keepsFinite_toColumn hw).isFinite hvalue hrest

/-- How the nulls of the object that is sent for a row relate to the row as it was formatted. -/
structure NullsSent (s : Schema) (row out : Row) (o : Json) : Prop where
  /-- Everything has its place in the object. -/
  place : ∀ way u, (Value.struct out).at? way = some u → ∃ j, o.at? way = some j
  /-- Null stands for null or for a number of the row that is not finite. -/
  null_iff : ∀ way, o.at? way = some .null ↔
    ∃ u, (Value.struct out).at? way = some u ∧
      (u = .null ∨ (Value.struct row).finiteAt way = false)
  /-- Nothing else becomes null if all numbers that are sent are finite, and only then. -/
  kept_iff : (∀ way, o.at? way = some .null ↔ (Value.struct out).at? way = some .null) ↔
    ∀ way u, (Value.struct out).at? way = some u → (Value.struct row).finiteAt way = true
  /-- A required column is null exactly if its value is a number that is not finite. -/
  required_iff : ∀ f ∈ s.fields, ∀ w, mapper.toWarehouse f.neutral = .ok w → w.mode = .required →
    (o.at? [.member f.name] = some .null ↔ (Row.value row f.name).isFinite = false)

theorem nullsSent_of_format (hformat : RowFormat.ofSchema mapper s = .ok format)
    (h : format.format row = .ok out) : NullsSent s row out (Row.toJson .widened out) := by
  have hfinite : ∀ {way u}, (Value.struct out).at? way = some u →
      u.isFinite = (Value.struct row).finiteAt way := isFinite_of_format hformat h
  have hnull : ∀ way, (Row.toJson .widened out).at? way = some .null ↔
      ∃ u, (Value.struct out).at? way = some u ∧
        (u = .null ∨ (Value.struct row).finiteAt way = false) := by
    intro way
    refine (Value.at?_toJson_eq_null_iff (.struct out) way).trans (exists_congr fun u => ?_)
    exact and_congr_right fun hu => by rw [hfinite hu]
  refine ⟨fun way u hu => ⟨_, Value.at?_toJson hu⟩, hnull, ?_, fun f hf w hw hmode => ?_⟩
  · refine (Value.nulls_kept_iff (.struct out)).trans ?_
    exact forall₃_congr fun way u hu => by rw [hfinite hu]
  · rcases RowFormat.get?_of_format hformat h hf with ⟨v, hsent, hv⟩
    have hvalue : w.formatter (Row.value row f.name) f.metadata = .ok v := by
      rw [RowFormat.sentValue, hw] at hsent
      exact hsent
    have hat : (Value.struct out).at? [.member f.name] = some v := by
      rw [Value.at?, show (Value.struct out).part? (.member f.name) = some v from hv]
      rfl
    rw [hnull, Value.finiteAt_member]
    -- The column does not send null itself.
    constructor
    · rintro ⟨u, hu, rfl | hinfinite⟩
      · cases hat.symm.trans hu
        exact absurd rfl (ne_null_of_required hw hmode hvalue)
      · exact hinfinite
    · exact fun hinfinite => ⟨v, hat, .inr hinfinite⟩

end

/-- For each row an object is sent in which null stands for null or for a number that is not finite;
a required column is null exactly if its value is such a number. -/
theorem null_sent_iff {s : Schema} {format : RowFormat ColumnType}
    (hformat : RowFormat.ofSchema mapper s = .ok format) {rows : List Row} {objects : List Json}
    (h : rowObjects format rows = .ok objects) :
    List.Forall₂ (fun row o => ∃ out, format.format row = .ok out ∧ NullsSent s row out o)
      rows objects := by
  rcases Outcome.map_eq_ok h with ⟨formatted, hrows, rfl⟩
  refine List.forall₂_map_right_iff.2 ((Outcome.mapM_eq_ok_iff.1 hrows).imp fun row out hout => ?_)
  exact ⟨out, hout, nullsSent_of_format hformat hout⟩

/-- The schema of a number and a remark about it. -/
def measured : Schema :=
  ⟨[.plain "x" (.scalar .float64) false, .plain "note" (.scalar .string) true], by decide⟩

/-- The columns that it is sent in. -/
def measuredFormat : RowFormat ColumnType :=
  ⟨[⟨"x", .required .float .float64, ∅⟩,
    ⟨"note", (ColumnType.required .string .string).optional, ∅⟩]⟩

/-- Of a number without a remark only the remark is sent as null. -/
theorem null_sent_iff_remark :
    RowFormat.ofSchema mapper measured = .ok measuredFormat ∧
      ∃ o, rowObjects measuredFormat [[("x", .float64 0x3FF8000000000000)]] = .ok [o] ∧
        o.at? [.member "note"] = some .null ∧ o.at? [.member "x"] ≠ some .null := by
  have hformat : RowFormat.ofSchema mapper measured = .ok measuredFormat := rfl
  have hobjects : rowObjects measuredFormat [[("x", .float64 0x3FF8000000000000)]] = .ok [_] := rfl
  rcases null_sent_iff hformat hobjects with _ | ⟨⟨out, hout, hnulls⟩, -⟩
  refine ⟨hformat, _, hobjects, (hnulls.null_iff _).2 ?_, fun hx => ?_⟩
  · cases hout
    exact ⟨.null, rfl, .inl rfl⟩
  · have hinfinite := (hnulls.required_iff _ List.mem_cons_self _ rfl rfl).1 hx
    exact absurd hinfinite (by decide)

/-- An infinite number passes for a value of a required column and is sent as null. -/
theorem null_sent_for_infinity :
    RowFormat.ofSchema mapper measured = .ok measuredFormat ∧
      measuredFormat.columns.map (·.type.mode) = [.required, .nullable] ∧
      measuredFormat.format [("x", .float64 0x7FF0000000000000)] =
        .ok [("note", .null), ("x", .float64 0x7FF0000000000000)] ∧
      rowObjects measuredFormat [[("x", .float64 0x7FF0000000000000)]] =
        .ok [.object [("note", .null), ("x", .null)]] :=
  ⟨rfl, rfl, rfl, rfl⟩

end BigQuery
end Ingest
