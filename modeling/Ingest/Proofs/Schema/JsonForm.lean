import Ingest.Proofs.Dict
import Ingest.Proofs.Schema.Comparison
import Ingest.Schema.Json

/-!
# Schemas and their JSON form

What is written for a type names its kind in the first place, and a reader goes by the kind, so
that a type is read back part by part (`read?_toJson`), whether it stands alone or inside another
type. What is left out, the zone of a timestamp without one and metadata without entries, is what a
reader takes for granted. Main statement: `json_form_lossless`, by which every schema comes back
from its JSON form and nothing but a repeated name keeps a list of fields from being a schema.
-/

namespace Ingest

/-! ## Metadata -/

theorem Metadata.ofJson?_toJson (m : Metadata) : Metadata.ofJson? m.toJson = some m := by
  have hentries : (m.entries.map fun e => (e.1, Json.string e.2)).mapM
      (fun e : String × Json => e.2.asString?.map fun s => (e.1, s)) = some m.entries := by
    rw [List.mapM_map]
    exact (List.mapM_pure (f := id)).trans (congrArg some (List.map_id _))
  -- The entries are in order already, so that they are not moved.
  have hsorted : Metadata.ofList m.entries = m := by
    simp only [Metadata.ofList, m.sorted.ofList_eq]
  simp only [Metadata.ofJson?, Metadata.toJson, Json.asObject?, Option.bind_eq_bind,
    Option.bind_some, hentries]
  exact congrArg some hsorted

/-! ## Reading by kind -/

section Kinds

variable {place : Place} {j tag content r : Json}

theorem DataType.read?_list {element : Json} (htag : j.tagged? "kind" = some (tag, content))
    (hkind : kindName? place tag = some "list") (hrecord : content.record? ["element"] = some r)
    (helement : r.member? "element" = some element) :
    DataType.read? place j = (DataType.read? .inside element).map .list := by
  rw [DataType.read?]
  split
  · rename_i hnone
    cases htag.symm.trans hnone
  · rename_i hsome
    cases htag.symm.trans hsome
    simp only [hkind, if_pos]
    split
    · rename_i hnone
      cases hrecord.symm.trans hnone
    · rename_i hsome
      cases hrecord.symm.trans hsome
      split
      · rename_i hnone
        cases helement.symm.trans hnone
      · rename_i hsome
        cases helement.symm.trans hsome
        rfl

theorem DataType.read?_struct {items : List Json} (htag : j.tagged? "kind" = some (tag, content))
    (hkind : kindName? place tag = some "struct") (hrecord : content.record? ["fields"] = some r)
    (hfields : r.member? "fields" = some (.array items)) :
    DataType.read? place j = (readFields? .inside items).map .struct := by
  rw [DataType.read?]
  split
  · rename_i hnone
    cases htag.symm.trans hnone
  · rename_i hsome
    cases htag.symm.trans hsome
    simp only [hkind]
    rw [if_neg (by decide), if_pos trivial]
    split
    · rename_i hnone
      cases hrecord.symm.trans hnone
    · rename_i hsome
      cases hrecord.symm.trans hsome
      split
      · rename_i hsome
        cases hfields.symm.trans hsome
        rfl
      · rename_i hother
        exact absurd hfields (hother items)

theorem DataType.read?_scalar {kind : String} (htag : j.tagged? "kind" = some (tag, content))
    (hkind : kindName? place tag = some kind) (hlist : kind ≠ "list") (hstruct : kind ≠ "struct") :
    DataType.read? place j = (Scalar.ofContent? kind content).map .scalar := by
  rw [DataType.read?]
  split
  · rename_i hnone
    cases htag.symm.trans hnone
  · rename_i hsome
    cases htag.symm.trans hsome
    simp only [hkind, if_neg hlist, if_neg hstruct]

theorem readFields?_cons {item type : Json} {rest : List Json}
    (hrecord : item.record? ["name", "data_type", "nullable", "metadata"] = some r)
    (h : r.member? "data_type" = some type) :
    readFields? place (item :: rest) = (do
      let name ← r.required "name" Json.asString?
      let t ← DataType.read? place type
      let nullable ← r.required "nullable" Json.asBool?
      let metadata ← r.defaulted "metadata" ∅ Metadata.ofJson?
      let others ← readFields? place rest
      return ⟨name, t, nullable, metadata⟩ :: others) := by
  rw [readFields?]
  split
  · rename_i hnone
    cases hrecord.symm.trans hnone
  · rename_i hsome
    cases hrecord.symm.trans hsome
    split
    · rename_i hnone
      cases h.symm.trans hnone
    · rename_i hsome
      cases h.symm.trans hsome
      rfl

end Kinds

/-! ## Types -/

/-- A scalar is written under a kind of its own, by which it is read again. -/
theorem Scalar.read?_toJson (place : Place) (s : Scalar) :
    DataType.read? place s.toJson = some (.scalar s) := by
  have hkind : ∃ kind content, s.toJson.tagged? "kind" = some (.string kind, content) ∧
      kind ≠ "list" ∧ kind ≠ "struct" ∧ Scalar.ofContent? kind content = some s := by
    rcases s with _ | _ | _ | _ | _ | _ | _ | ⟨_ | _ | _ | _, _ | zone⟩ | _
    all_goals exact ⟨_, _, rfl, by decide, by decide, rfl⟩
  rcases hkind with ⟨kind, content, htag, hlist, hstruct, hread⟩
  rw [DataType.read?_scalar htag rfl hlist hstruct, hread]
  rfl

/-! ## Fields -/

namespace Field

variable (f : Field)

theorem record?_toJson :
    f.toJson.record? ["name", "data_type", "nullable", "metadata"] = some f.toJson := by
  rcases f with ⟨name, type, nullable, metadata⟩
  cases hempty : metadata.isEmpty <;> simp only [toJson, fieldsToJson, hempty] <;> rfl

theorem member?_type : f.toJson.member? "data_type" = some f.type.toJson := by
  cases f
  rfl

theorem member?_name : f.toJson.member? "name" = some (.string f.name) := by
  rcases f with ⟨name, type, nullable, metadata⟩
  cases hempty : metadata.isEmpty <;> simp only [toJson, fieldsToJson, hempty] <;> rfl

theorem member?_nullable : f.toJson.member? "nullable" = some (.bool f.nullable) := by
  rcases f with ⟨name, type, nullable, metadata⟩
  cases hempty : metadata.isEmpty <;> simp only [toJson, fieldsToJson, hempty] <;> rfl

/-- Metadata without entries are not written, and are what stands for absent ones. -/
theorem defaulted_metadata :
    f.toJson.defaulted "metadata" ∅ Metadata.ofJson? = some f.metadata := by
  rcases f with ⟨name, type, nullable, metadata⟩
  cases hempty : metadata.isEmpty with
  | true =>
    have hnone : metadata = ∅ := by
      rcases metadata with ⟨entries, hsorted⟩
      cases List.isEmpty_iff.1 hempty
      rfl
    subst hnone
    rfl
  | false =>
    have hmember : (toJson ⟨name, type, nullable, metadata⟩).member? "metadata" =
        some metadata.toJson := by
      simp only [toJson, fieldsToJson, hempty]
      rfl
    simp only [Json.defaulted, hmember]
    exact metadata.ofJson?_toJson

end Field

theorem fieldsToJson_cons (f : Field) (rest : List Field) :
    fieldsToJson (f :: rest) = f.toJson :: fieldsToJson rest := by
  cases f
  rfl

/-- Fields are read back if their types are. -/
theorem readFields?_fieldsToJson {place : Place} {fields : List Field}
    (h : ∀ f ∈ fields, DataType.read? place f.type.toJson = some f.type) :
    readFields? place (fieldsToJson fields) = some fields := by
  induction fields with
  | nil =>
    rw [fieldsToJson, readFields?]
  | cons f rest ih =>
    have htype : DataType.read? place f.type.toJson = some f.type := h f List.mem_cons_self
    have hrest : readFields? place (fieldsToJson rest) = some rest :=
      ih fun g hg => h g (List.mem_cons_of_mem f hg)
    -- Each member of the first field gives back the part that it was written for.
    rw [fieldsToJson_cons, readFields?_cons f.record?_toJson f.member?_type]
    simp only [Json.required, f.member?_name, f.member?_nullable, f.defaulted_metadata, htype,
      hrest, Option.bind_some, Option.bind_eq_bind, Json.asString?, Json.asBool?]
    cases f
    rfl

/-- A type is read back wherever it stands. -/
theorem read?_toJson (place : Place) (t : DataType) :
    DataType.read? place t.toJson = some t := by
  -- The parts stand inside the type, whatever the place of the whole.
  induction t using DataType.induction generalizing place with
  | scalar s => exact s.read?_toJson place
  | list element ih =>
    have hread : DataType.read? .inside element.toJson = some element := ih .inside
    rw [DataType.toJson, DataType.read?_list rfl rfl rfl rfl, hread]
    rfl
  | struct fields ih =>
    have hread : readFields? .inside (fieldsToJson fields) = some fields :=
      readFields?_fieldsToJson fun f hf => ih f hf .inside
    rw [DataType.toJson, DataType.read?_struct rfl rfl rfl rfl, hread]
    rfl

/-! ## Schemas -/

theorem listOfJson?_fieldsToJson (fields : List Field) :
    Field.listOfJson? (.array (fieldsToJson fields)) = some fields :=
  readFields?_fieldsToJson fun f _ => read?_toJson .outermost f.type

/-- What is read as a schema is a list of fields that is one. -/
theorem Schema.ofJson?_eq_some_iff {j : Json} {s : Schema} :
    Schema.ofJson? j = some s ↔ Field.listOfJson? j = some s.fields := by
  have hfields : ∀ fields, (Schema.ofFields fields).toOption = some s ↔ s.fields = fields := by
    intro fields
    rw [← Schema.ofFields_eq_ok_iff]
    cases Schema.ofFields fields <;> simp [Except.toOption]
  simp only [Schema.ofJson?, Option.bind_eq_some_iff, hfields]
  constructor
  · rintro ⟨fields, hread, rfl⟩
    exact hread
  · intro hread
    exact ⟨s.fields, hread, rfl⟩

/-- Every schema is read back from what is written for it. An array of fields is read as a schema
exactly where no two of the fields have the same name, and then as the schema of these fields. -/
theorem json_form_lossless :
    (∀ s : Schema, Schema.ofJson? s.toJson = some s) ∧
      ∀ (j : Json) (fields : List Field), Field.listOfJson? j = some fields →
        ((Schema.ofJson? j).isSome ↔ (fields.map (·.name)).Nodup) ∧
          ∀ s, Schema.ofJson? j = some s → s.fields = fields := by
  refine ⟨fun s => ?_, fun j fields hfields => ⟨⟨fun hread => ?_, fun hnodup => ?_⟩, ?_⟩⟩
  · exact Schema.ofJson?_eq_some_iff.2 (listOfJson?_fieldsToJson s.fields)
  · rcases Option.isSome_iff_exists.1 hread with ⟨s, hs⟩
    have hsame : s.fields = fields :=
      Option.some.inj ((Schema.ofJson?_eq_some_iff.1 hs).symm.trans hfields)
    exact hsame ▸ s.nodup
  · have hs : Schema.ofJson? j = some ⟨fields, hnodup⟩ := Schema.ofJson?_eq_some_iff.2 hfields
    rw [hs]
    rfl
  · intro s hs
    exact Option.some.inj ((Schema.ofJson?_eq_some_iff.1 hs).symm.trans hfields)

/-- Two fields of one name that may be read but make no schema, the first an object and the second an
array: the zone of the first is null, that of the items of the second is the empty text, and their
kind is given by its number. -/
theorem json_form_lossless_repeated :
    let at₁ : Json := .object [("name", .string "at"), ("nullable", .bool true), ("data_type",
      .object [("kind", .string "timestamp"), ("unit", .string "second"), ("timezone", .null)])]
    let at₂ : Json := .array [.string "at", .array [.string "list",
      .array [.int 7, .string "second", .string ""]], .bool false]
    Field.listOfJson? (.array [at₁, at₂]) =
        some [.plain "at" (.scalar (.timestamp .second none)) true,
          .plain "at" (.list (.scalar (.timestamp .second (some "")))) false] ∧
      Schema.ofJson? (.array [at₁, at₂]) = none := by
  intro at₁ at₂
  have hread : Field.listOfJson? (.array [at₁, at₂]) =
      some [.plain "at" (.scalar (.timestamp .second none)) true,
        .plain "at" (.list (.scalar (.timestamp .second (some "")))) false] := by
    cbv
  refine ⟨hread, ?_⟩
  rw [← Option.not_isSome_iff_eq_none, (json_form_lossless.2 _ _ hread).1]
  decide

end Ingest
