import Ingest.Proofs.Dict
import Ingest.Proofs.Format.Scalars
import Ingest.Proofs.Json.Positions

/-!
# Finite numbers that are sent

Formatters of scalars widen and narrow floating-point numbers, but a finite number never becomes an
infinite one, nor the other way round. So whatever stands at a way in what is sent is finite exactly
if what stands there in the value is (`Formatter.KeepsFinite`).
-/

namespace Ingest
namespace Formatter

/-- What is sent is finite exactly where the value is. -/
structure KeepsFinite (f : Formatter) : Prop where
  isFinite : ∀ {v m r}, f v m = .ok r → ∀ {way u}, r.at? way = some u →
    u.isFinite = v.finiteAt way

/-! ## Scalars -/

/-- What is sent has no parts and is finite exactly if the value is. -/
structure SentWhole (v r : Value) : Prop where
  part? : ∀ p, r.part? p = none
  isFinite : r.isFinite = v.isFinite

theorem KeepsFinite.of_sentWhole {f : Formatter}
    (h : ∀ {v m r}, f v m = .ok r → SentWhole v r) : f.KeepsFinite where
  isFinite {v m r} hr way u hu := by
    cases way with
    | nil =>
      cases hu
      exact (h hr).isFinite
    | cons p way =>
      rw [Value.at?, (h hr).part? p] at hu
      cases hu

section

variable {v r : Value} {m : Metadata}

theorem sentWhole_of_string (h : string v m = .ok r) : SentWhole v r := by
  cases v <;> cases h
  exact ⟨fun _ => rfl, rfl⟩

theorem sentWhole_of_bool (h : bool v m = .ok r) : SentWhole v r := by
  cases v <;> cases h
  exact ⟨fun _ => rfl, rfl⟩

theorem sentWhole_of_int64 (h : int64 v m = .ok r) : SentWhole v r := by
  cases v <;> cases h <;> exact ⟨fun _ => rfl, rfl⟩

theorem sentWhole_of_int32 (h : int32 v m = .ok r) : SentWhole v r := by
  rcases int32_eq_ok h with ⟨n, rfl, hn⟩
  cases v <;> first | exact ⟨fun _ => rfl, rfl⟩ | cases hn

theorem sentWhole_of_date (h : date v m = .ok r) : SentWhole v r := by
  rcases date_eq_ok h with ⟨s, rfl⟩
  cases v <;> first | exact ⟨fun _ => rfl, rfl⟩ | cases h

theorem sentWhole_of_float64 (h : float64 v m = .ok r) : SentWhole v r := by
  cases v with
  | float32 bits =>
    cases h
    exact ⟨fun _ => rfl, Floating.isFinite_widen bits⟩
  | float64 bits =>
    cases h
    exact ⟨fun _ => rfl, rfl⟩
  | _ => cases h

/-- What would become infinite is refused. -/
theorem sentWhole_of_float32 (h : float32 v m = .ok r) : SentWhole v r := by
  cases v with
  | float32 bits =>
    cases h
    exact ⟨fun _ => rfl, rfl⟩
  | float64 bits =>
    simp only [float32] at h
    split at h
    · cases h
    · rename_i hsmall
      cases h
      exact ⟨fun _ => rfl, Floating.isFinite_narrow (Bool.eq_false_iff.2 hsmall)⟩
  | _ => cases h

end

theorem keepsFinite_ofScalar? {timestamp f : Formatter} (htimestamp : timestamp.KeepsFinite)
    {s : Scalar} (h : ofScalar? timestamp s = some f) : f.KeepsFinite := by
  cases s <;> cases h
  case string => exact .of_sentWhole sentWhole_of_string
  case bool => exact .of_sentWhole sentWhole_of_bool
  case int32 => exact .of_sentWhole sentWhole_of_int32
  case int64 => exact .of_sentWhole sentWhole_of_int64
  case float32 => exact .of_sentWhole sentWhole_of_float32
  case float64 => exact .of_sentWhole sentWhole_of_float64
  case date32 => exact .of_sentWhole sentWhole_of_date
  case timestamp => exact htimestamp

/-! ## Null, lists and records -/

theorem KeepsFinite.nullPassthrough {f : Formatter} (h : f.KeepsFinite) :
    f.nullPassthrough.KeepsFinite where
  isFinite {v m r} hr way u hu := by
    unfold Formatter.nullPassthrough at hr
    split at hr
    · rename_i hnull
      cases hr
      rw [Value.eq_null_of_isNull hnull, Value.finiteAt_of_at? hu]
    · exact h.isFinite hr hu

theorem KeepsFinite.list {item : Formatter} (h : item.KeepsFinite) :
    (Formatter.list item).KeepsFinite where
  isFinite {v m r} hr way u hu := by
    rcases list_eq_ok hr with ⟨sent, rfl, hitems⟩
    cases way with
    | nil =>
      cases hu
      rcases hitems with ⟨rfl, -⟩ | ⟨items, rfl, -⟩ <;> rfl
    | cons p way =>
      rcases Option.bind_eq_some_iff.1 hu with ⟨s, hs, hrest⟩
      cases p with
      | member name => cases hs
      | item i =>
        rcases hitems with ⟨-, rfl⟩ | ⟨items, rfl, hsent⟩
        · cases hs
        · rcases List.getElem?_eq_some_iff.1 hs with ⟨hi, hget⟩
          have hlength : i < items.length := hsent.length_eq ▸ hi
          have hitem : item items[i] m = .ok s := hget ▸ hsent.get hlength hi
          have hpart : (Value.list items).part? (.item i) = some items[i] :=
            List.getElem?_eq_getElem hlength
          rw [Value.finiteAt_cons_of_part? hpart]
          exact h.isFinite hitem hrest

theorem KeepsFinite.struct {formatters : List (String × Formatter)}
    (h : ∀ f ∈ formatters, f.2.KeepsFinite) : (Formatter.struct formatters).KeepsFinite where
  isFinite {v m r} hr way u hu := by
    cases v with
    | struct record =>
      rcases Outcome.map_eq_ok hr with ⟨sent, hsent, rfl⟩
      cases way with
      | nil =>
        cases hu
        rfl
      | cons p way =>
        rcases Option.bind_eq_some_iff.1 hu with ⟨s, hs, hrest⟩
        cases p with
        | item i => cases hs
        | member name =>
          -- A name may occur again; each of its formatters is given the same value.
          have hentry : (name, s) ∈ sent := Dict.mem_of_get?_ofList hs
          have hformatted := Outcome.mapM_eq_ok_iff.1 hsent
          rcases Outcome.exists_of_forall₂ hformatted hentry with ⟨f, hf, hmember⟩
          rcases Outcome.map_eq_ok hmember with ⟨s', hs', heq⟩
          cases heq
          rw [Value.finiteAt_member]
          exact (h f hf).isFinite hs' hrest
    | _ => cases hr

end Formatter
end Ingest
