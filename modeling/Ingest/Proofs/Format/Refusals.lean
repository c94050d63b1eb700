import Ingest.Format.Row
import Ingest.Proofs.Format.Scalars

/-!
# Why rows are refused

When a row is not sent, a value is to blame: it is of another kind than its column, or out of
range. Formatters of lists and records pass on what the formatters of their parts report
(`Formatter.BlamesValues`), so that this holds of whole rows.
-/

namespace Ingest

/-- Whether a failure is about a value. -/
def Failure.blamesValue : Failure → Bool
  | invalidValue _ _ => true
  | valueOutOfRange _ _ => true
  | _ => false

namespace Formatter

/-- Every refusal is about a value. -/
def BlamesValues (f : Formatter) : Prop :=
  ∀ v m e, f v m = .error e → e.blamesValue = true

theorem refuse_eq_error {expected : String} {v : Value} {e : Failure}
    (h : refuse expected v = .error e) : e.blamesValue = true := by
  cases h
  rfl

/-! ## Scalars -/

theorem blamesValues_int32 : int32.BlamesValues := by
  intro v m e h
  cases v with
  | int32 n => cases h
  | int64 n =>
    simp only [int32] at h
    split at h
    · cases h
    · cases h
      rfl
  | _ => exact refuse_eq_error h

theorem blamesValues_float32 : float32.BlamesValues := by
  intro v m e h
  cases v with
  | float32 bits => cases h
  | float64 bits =>
    simp only [float32] at h
    split at h
    · cases h
      rfl
    · cases h
  | _ => exact refuse_eq_error h

theorem blamesValues_date : date.BlamesValues := by
  intro v m e h
  cases v with
  | date d => cases h
  | timestamp t => cases h
  | string s =>
    simp only [date] at h
    split at h
    · cases h
    · cases h
      rfl
  | _ => exact refuse_eq_error h

theorem blamesValues_ofScalar? {timestamp f : Formatter} (htimestamp : timestamp.BlamesValues)
    {s : Scalar} (h : ofScalar? timestamp s = some f) : f.BlamesValues := by
  cases s <;> cases h
  case int32 => exact blamesValues_int32
  case float32 => exact blamesValues_float32
  case date32 => exact blamesValues_date
  case timestamp => exact htimestamp
  -- The others send a value of their kind whatever it is.
  all_goals
    intro v m e h
    cases v <;> first | exact refuse_eq_error h | cases h

/-! ## Null, lists and records -/

theorem BlamesValues.nullAs {f : Formatter} (h : f.BlamesValues) (fallback : Value) :
    (Formatter.nullAs fallback f).BlamesValues := by
  intro v m e he
  unfold Formatter.nullAs at he
  split at he <;> exact h _ m e he

theorem BlamesValues.list {item : Formatter} (h : item.BlamesValues) :
    (Formatter.list item).BlamesValues := by
  intro v m e he
  cases v with
  | list items =>
    rcases Outcome.mapM_eq_error (Outcome.map_eq_error he) with ⟨i, -, hi⟩
    exact h i m e hi
  | null => cases he
  | _ => exact refuse_eq_error he

theorem BlamesValues.struct {formatters : List (String × Formatter)}
    (h : ∀ f ∈ formatters, f.2.BlamesValues) : (Formatter.struct formatters).BlamesValues := by
  intro v m e he
  cases v with
  | struct record =>
    rcases Outcome.mapM_eq_error (Outcome.map_eq_error he) with ⟨f, hf, hmember⟩
    exact h f hf _ m e (Outcome.map_eq_error hmember)
  | _ => exact refuse_eq_error he

end Formatter

/-! ## Rows -/

/-- If the formatters of all columns blame values, so does a row that is refused. -/
theorem RowFormat.blamesValue_of_format {W : Type} [WarehouseType W] {f : RowFormat W} {row : Row}
    {e : Failure}
    (hcolumns : ∀ c ∈ f.columns, (WarehouseType.format c.type : Formatter).BlamesValues)
    (h : f.format row = .error e) : e.blamesValue = true := by
  rcases Outcome.mapM_eq_error (Outcome.map_eq_error h) with ⟨c, hc, hcell⟩
  exact hcolumns c hc _ _ e (Outcome.map_eq_error hcell)

end Ingest
