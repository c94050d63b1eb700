import Ingest.Proofs.ClickHouse.Reprinting

/-!
# Reading written types

A plain type is read back from its written form (`parse_text`). Whatever is read from a text, nested
columns have at least one column, and the names of the columns are words (`wellNamed_of_parse`).
-/

namespace Ingest
namespace ClickHouse

/-! ## Plain types are read back -/

mutual

/-- A plain type derives from its tokens. -/
theorem derives_tokens (t : TypeName) (ht : t.Plain) :
    Derives t.tokens t ∧ ∀ t' ∈ t.tokens, t'.Proper :=
  match t with
  | .named name => by
    rw [TypeName.Plain] at ht
    rw [TypeName.tokens]
    exact ⟨.named name, by simpa [Token.Proper] using ht⟩
  | .dateTime64 precision none => by
    rw [TypeName.Plain] at ht
    refine ⟨derives_dateTime64 ht.1, proper_applied_iff.2 ⟨by decide, ?_⟩⟩
    simpa [Token.Proper] using isNumber_natText precision
  | .dateTime64 precision (some zone) => by
    rw [TypeName.Plain] at ht
    refine ⟨derives_dateTime64_zone ht.1 zone, proper_applied_iff.2 ⟨by decide, ?_⟩⟩
    simpa [Token.Proper] using isNumber_natText precision
  | .array element => by
    rw [TypeName.Plain] at ht
    rcases derives_tokens element ht with ⟨hderives, hproper⟩
    exact ⟨.array hderives, proper_applied_iff.2 ⟨by decide, hproper⟩⟩
  | .nullable inner => by
    rw [TypeName.Plain] at ht
    rcases derives_tokens inner ht with ⟨hderives, hproper⟩
    exact ⟨.nullable hderives, proper_applied_iff.2 ⟨by decide, hproper⟩⟩
  | .lowCardinality inner => by
    rw [TypeName.Plain] at ht
    rcases derives_tokens inner ht with ⟨hderives, hproper⟩
    exact ⟨.lowCardinality hderives, proper_applied_iff.2 ⟨by decide, hproper⟩⟩
  | .nested columns => by
    rw [TypeName.Plain] at ht
    rcases derives_columnTokens columns ht.1 ht.2 with ⟨hderives, hproper⟩
    exact ⟨.nested hderives, proper_applied_iff.2 ⟨by decide, hproper⟩⟩
  | .other text => by
    rw [TypeName.Plain] at ht
    exact ht.elim

theorem derives_columnTokens (columns : List (String × TypeName)) (hne : columns ≠ [])
    (hcolumns : PlainColumns columns) :
    DerivesColumns (columnTokens columns) columns ∧ ∀ t ∈ columnTokens columns, t.Proper :=
  match columns, hne, hcolumns with
  | [], hne, _ => absurd rfl hne
  | [(name, type)], _, hcolumns => by
    rw [PlainColumns] at hcolumns
    rw [columnTokens]
    rcases derives_tokens type hcolumns.2.1 with ⟨hderives, hproper⟩
    exact ⟨.last hderives, List.forall_mem_cons.2 ⟨hcolumns.1, hproper⟩⟩
  | (name, type) :: next :: rest, _, hcolumns => by
    rw [PlainColumns] at hcolumns
    rw [columnTokens]
    rcases derives_tokens type hcolumns.2.1 with ⟨hderives, hproper⟩
    rcases derives_columnTokens (next :: rest) (List.cons_ne_nil _ _) hcolumns.2.2 with
      ⟨hderives', hproper'⟩
    refine ⟨.cons hderives hderives', ?_⟩
    simp only [List.forall_mem_cons, List.forall_mem_append]
    exact ⟨hcolumns.1, hproper, trivial, hproper'⟩

end

mutual

/-- A plain type has no text of its own that is kept, and its zones need no escapes. -/
theorem legible_of_plain (t : TypeName) (ht : t.Plain) : t.Legible :=
  match t with
  | .named _ => by
    rw [TypeName.Legible]
    trivial
  | .dateTime64 _ _ => by
    rw [TypeName.Plain] at ht
    rw [TypeName.Legible]
    exact ht.2
  | .array element => by
    rw [TypeName.Plain] at ht
    rw [TypeName.Legible]
    exact legible_of_plain element ht
  | .nullable inner => by
    rw [TypeName.Plain] at ht
    rw [TypeName.Legible]
    exact legible_of_plain inner ht
  | .lowCardinality inner => by
    rw [TypeName.Plain] at ht
    rw [TypeName.Legible]
    exact legible_of_plain inner ht
  | .nested columns => by
    rw [TypeName.Plain] at ht
    rw [TypeName.Legible]
    exact legibleColumns_of_plain columns ht.2
  | .other _ => by
    rw [TypeName.Plain] at ht
    exact ht.elim

theorem legibleColumns_of_plain (columns : List (String × TypeName))
    (hcolumns : PlainColumns columns) : LegibleColumns columns :=
  match columns with
  | [] => by
    rw [LegibleColumns]
    trivial
  | (_, type) :: rest => by
    rw [PlainColumns] at hcolumns
    rw [LegibleColumns]
    exact ⟨legible_of_plain type hcolumns.2.1, legibleColumns_of_plain rest hcolumns.2.2⟩

end

/-- A plain type is read back from its written form. -/
theorem TypeName.parse_text {t : TypeName} (ht : t.Plain) : parse t.text = .ok t := by
  rcases derives_tokens t ht with ⟨hderives, hproper⟩
  exact (parse_text_iff hderives hproper).2 (legible_of_plain t ht)

/-! ## What is read is well named -/

mutual

/-- Nested columns have at least one column, and the names of columns are words. -/
def TypeName.WellNamed : TypeName → Prop
  | .array element => element.WellNamed
  | .nullable inner => inner.WellNamed
  | .lowCardinality inner => inner.WellNamed
  | .nested columns => columns ≠ [] ∧ WellNamedColumns columns
  | _ => True

def WellNamedColumns : List (String × TypeName) → Prop
  | [] => True
  | (name, type) :: rest => isWord name = true ∧ type.WellNamed ∧ WellNamedColumns rest

end

mutual

/-- What derives from the tokens of a text is well named. -/
theorem wellNamed_of_derives {ts : List Token} {t : TypeName} (h : Derives ts t)
    (hproper : ∀ t ∈ ts, t.Proper) : t.WellNamed := by
  match h with
  | .named _ | .dateTime64 _ | .dateTime64Zone _ | .other _ _ => simp [TypeName.WellNamed]
  | .array hinner =>
    rw [TypeName.WellNamed]
    exact wellNamed_of_derives hinner (proper_applied_iff.1 hproper).2
  | .nullable hinner =>
    rw [TypeName.WellNamed]
    exact wellNamed_of_derives hinner (proper_applied_iff.1 hproper).2
  | .lowCardinality hinner =>
    rw [TypeName.WellNamed]
    exact wellNamed_of_derives hinner (proper_applied_iff.1 hproper).2
  | .nested hcolumns =>
    rw [TypeName.WellNamed]
    exact ⟨hcolumns.ne_nil, wellNamedColumns_of_derives hcolumns (proper_applied_iff.1 hproper).2⟩

theorem wellNamedColumns_of_derives {ts : List Token} {columns : List (String × TypeName)}
    (h : DerivesColumns ts columns) (hproper : ∀ t ∈ ts, t.Proper) : WellNamedColumns columns := by
  match h with
  | .last htype =>
    rw [List.forall_mem_cons] at hproper
    rw [WellNamedColumns, WellNamedColumns, and_true]
    exact ⟨hproper.1, wellNamed_of_derives htype hproper.2⟩
  | .cons htype hcolumns =>
    simp only [List.forall_mem_cons, List.forall_mem_append] at hproper
    rw [WellNamedColumns]
    exact ⟨hproper.1, wellNamed_of_derives htype hproper.2.1,
      wellNamedColumns_of_derives hcolumns hproper.2.2.2⟩

end

/-- What is read from a text is well named. -/
theorem TypeName.wellNamed_of_parse {text : String} {t : TypeName} (h : parse text = .ok t) :
    t.WellNamed := by
  rcases derives_of_parse h with ⟨ts, hs, hderives⟩
  exact wellNamed_of_derives hderives hs.proper

end ClickHouse
end Ingest
