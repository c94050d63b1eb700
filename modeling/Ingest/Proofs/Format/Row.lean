import Ingest.Format.Row
import Ingest.Proofs.Dict
import Ingest.Proofs.Outcome

/-!
# Formatted rows

A format has a column for each field of its schema, in the order of the fields. A formatted row
holds for each field what its value is sent as (`sentValue`), and it is found under the name of the
field (`get?_of_format`), and nothing else is found there (`exists_of_get?_format`).
-/

namespace Ingest
namespace RowFormat

variable {W : Type} {mapper : TypeMapper W} {s : Schema} {format : RowFormat W}

/-- The column that the values of a field are sent in. -/
structure IsColumnOf (mapper : TypeMapper W) (f : Field) (c : FormatColumn W) : Prop where
  name : c.name = f.name
  type : mapper.toWarehouse f.neutral = .ok c.type
  metadata : c.metadata = f.metadata

theorem columns_of_ofSchema (h : ofSchema mapper s = .ok format) :
    List.Forall₂ (IsColumnOf mapper) s.fields format.columns := by
  rcases Outcome.map_eq_ok h with ⟨columns, hcolumns, rfl⟩
  refine (Outcome.mapM_eq_ok_iff.1 hcolumns).imp ?_
  intro f c hc
  rcases Outcome.map_eq_ok hc with ⟨w, hw, rfl⟩
  exact ⟨rfl, hw, rfl⟩

variable [WarehouseType W]

/-- What the value of a field in a row is sent as; a row without a value for it has null there. -/
def sentValue (mapper : TypeMapper W) (f : Field) (row : Row) : Outcome Value := do
  let type ← mapper.toWarehouse f.neutral
  WarehouseType.format type (Row.value row f.name) f.metadata

theorem IsColumnOf.cell_eq {f : Field} {c : FormatColumn W} (h : IsColumnOf mapper f c)
    (row : Row) : cell c row = sentValue mapper f row := by
  rw [sentValue, h.type, cell, h.name, h.metadata]
  rfl

/-- The cells of a row are what the values of the fields are sent as, in the order of the fields. -/
theorem cells_eq {fields : List Field} {columns : List (FormatColumn W)}
    (hcolumns : List.Forall₂ (IsColumnOf mapper) fields columns) (row : Row) :
    (RowFormat.mk columns).cells row =
      fields.mapM fun f => (sentValue mapper f row).map fun v => (f.name, v) := by
  unfold cells
  simp only
  induction hcolumns with
  | nil => rfl
  | cons hc _ ih => rw [List.mapM_cons, List.mapM_cons, ih, hc.cell_eq, hc.name]

theorem cells_eq_ok {fields : List Field} {columns : List (FormatColumn W)} {row : Row}
    {cells : List (String × Value)} (hcolumns : List.Forall₂ (IsColumnOf mapper) fields columns)
    (h : (RowFormat.mk columns).cells row = .ok cells) :
    List.Forall₂ (fun f e => e.1 = f.name ∧ sentValue mapper f row = .ok e.2) fields cells := by
  rw [cells_eq hcolumns] at h
  refine (Outcome.mapM_eq_ok_iff.1 h).imp ?_
  intro f e he
  rcases Outcome.map_eq_ok he with ⟨v, hv, rfl⟩
  exact ⟨rfl, hv⟩

/-- A row does not format because of the first field whose value cannot be sent. -/
theorem exists_first_of_format {row : Row} {e : Failure} (hformat : ofSchema mapper s = .ok format)
    (h : format.format row = .error e) :
    ∃ left f, left ++ [f] <+: s.fields ∧ (∀ g ∈ left, ∃ v, sentValue mapper g row = .ok v) ∧
      sentValue mapper f row = .error e := by
  have hcells := Outcome.map_eq_error h
  rw [cells_eq (columns_of_ofSchema hformat)] at hcells
  rcases Outcome.exists_first_of_mapM hcells with ⟨left, f, hprefix, hleft, hfail⟩
  refine ⟨left, f, hprefix, fun g hg => ?_, Outcome.map_eq_error hfail⟩
  rcases hleft g hg with ⟨entry, hentry⟩
  rcases Outcome.map_eq_ok hentry with ⟨v, hv, -⟩
  exact ⟨v, hv⟩

/-- A formatted row has for each field what its value is sent as. -/
theorem get?_of_format {row out : Row} (hformat : ofSchema mapper s = .ok format)
    (h : format.format row = .ok out) {f : Field} (hf : f ∈ s.fields) :
    ∃ v, sentValue mapper f row = .ok v ∧ Dict.get? out f.name = some v := by
  rcases Outcome.map_eq_ok h with ⟨cells, hcells, rfl⟩
  have hsent := cells_eq_ok (columns_of_ofSchema hformat) hcells
  -- No two fields have one name, so that no value takes the place of another.
  have hnames : cells.map (·.1) = s.fields.map (·.name) :=
    Outcome.map_eq_of_forall₂ (fun _ _ h => h.1) hsent
  have hnodup : (cells.map (·.1)).Nodup := hnames ▸ s.nodup
  rcases Outcome.exists_of_forall₂ hsent.flip hf with ⟨e, he, hname, hvalue⟩
  refine ⟨e.2, hvalue, ?_⟩
  rw [← hname]
  exact Dict.get?_ofList_of_mem hnodup he

/-- A formatted row has an entry for each field, in some order. -/
theorem perm_of_format {row out : Row} (hformat : ofSchema mapper s = .ok format)
    (h : format.format row = .ok out) :
    ∃ cells : List (String × Value), out.Perm cells ∧
      List.Forall₂ (fun f e => e.1 = f.name ∧ sentValue mapper f row = .ok e.2) s.fields cells := by
  rcases Outcome.map_eq_ok h with ⟨cells, hcells, rfl⟩
  have hsent := cells_eq_ok (columns_of_ofSchema hformat) hcells
  have hnames : cells.map (·.1) = s.fields.map (·.name) :=
    Outcome.map_eq_of_forall₂ (fun _ _ h => h.1) hsent
  exact ⟨cells, Dict.perm_ofList (hnames ▸ s.nodup), hsent⟩

/-- A formatted row has nothing else. -/
theorem exists_of_get?_format {row out : Row} (hformat : ofSchema mapper s = .ok format)
    (h : format.format row = .ok out) {name : String} {v : Value}
    (hv : Dict.get? out name = some v) :
    ∃ f ∈ s.fields, f.name = name ∧ sentValue mapper f row = .ok v := by
  rcases Outcome.map_eq_ok h with ⟨cells, hcells, rfl⟩
  have hsent := cells_eq_ok (columns_of_ofSchema hformat) hcells
  rcases Outcome.exists_of_forall₂ hsent (Dict.mem_of_get?_ofList hv) with ⟨f, hf, hname, hvalue⟩
  exact ⟨f, hf, hname.symm, hvalue⟩

end RowFormat
end Ingest
