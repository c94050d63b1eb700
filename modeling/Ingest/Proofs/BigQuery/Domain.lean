import Ingest.Proofs.BigQuery.Rules

/-!
# Which types BigQuery stores

`Mappable` are the types with a column: scalars, lists of them, and lists of records of them. The
mapper is documented to accept these and to name the first part that it does not support of all
others, whatever the metadata are (`AsDocumented`). It finds the place of a record by an entry of
the metadata, though, and others can set that entry too: then a record outside of a list passes
(`Marked`). And it looks for lists and records among the members of a record before it looks for
binary ones, so that a binary member is not named if a list or a record follows (`Hidden`).
`mapper_as_documented_iff` says that these are the only exceptions.
-/

namespace Ingest
namespace BigQuery

open MappingRule

/-! ## What is documented -/

/-- A type with a column: a scalar, a list of scalars, or a list of records of scalars, none of them
binary. -/
def Mappable (t : DataType) : Prop :=
  t.Plain ∨ (∃ element, t = .list element ∧ element.Plain) ∨
    ∃ members, t = .list (.struct members) ∧ ∀ f ∈ members, f.type.Plain

/-- The first member that is binary, a list or a record. -/
inductive FirstInOrder : List Field → String → Prop
  | intro {before after : List Field} {f : Field} : (∀ g ∈ before, g.type.Plain) →
      ¬ f.type.Plain → FirstInOrder (before ++ f :: after) f.type.text

/-- The first member that is a list or a record, or else a binary one. -/
inductive CompositeFirst : List Field → String → Prop
  | composite {before after : List Field} {f : Field} : (∀ g ∈ before, g.type.isScalar = true) →
      f.type.isScalar = false → CompositeFirst (before ++ f :: after) f.type.text
  | binary {members : List Field} {f : Field} : (∀ g ∈ members, g.type.isScalar = true) →
      f ∈ members → ¬ f.type.Plain → CompositeFirst members "binary"

/-- The part of a type that is not supported, given which one it is of the members of a record. -/
inductive Offends (names : List Field → String → Prop) : DataType → String → Prop
  | binary : Offends names (.scalar .binary) "binary"
  | binaryElement : Offends names (.list (.scalar .binary)) "binary"
  | record (members : List Field) : Offends names (.struct members) (DataType.struct members).text
  | listElement (inner : DataType) :
      Offends names (.list (.list inner)) (DataType.list inner).text
  | members {members : List Field} {part : String} : names members part →
      Offends names (.list (.struct members)) part

/-- What is documented of the mapper holds for a type, if this is the member that it names. -/
structure AsDocumented (names : List Field → String → Prop) (t : NeutralType) : Prop where
  accepts : (∃ c, mapper.toWarehouse t = .ok c) ↔ Mappable t.type
  refuses : ∀ e, mapper.toWarehouse t = .error e ↔
    ∃ part, Offends names t.type part ∧ e = .unsupportedMapping part "bigquery"
  metadata : mapper.toWarehouse t = mapper.toWarehouse { t with metadata := ∅ }
  /-- Nor do the metadata of the members of a record change anything. -/
  memberMetadata : ∀ members, t.type = .list (.struct members) →
    mapper.toWarehouse { t with type := .list (.struct (members.map Field.bared)) } =
      mapper.toWarehouse t

/-- A record outside of a list, with metadata that say that it is inside one. -/
def Marked (t : NeutralType) : Prop :=
  t.type.isStruct = true ∧ t.metadata.get? "bigquery.parent_type" = some "array"

/-- A list of records with a binary member and, behind it, the first list or record. -/
def Hidden (t : DataType) : Prop :=
  ∃ before f after, t = .list (.struct (before ++ f :: after)) ∧
    (∀ g ∈ before, g.type.isScalar = true) ∧ f.type.isScalar = false ∧
      ∃ g ∈ before, ¬ g.type.Plain

/-! ## Scalars and members -/

theorem plain_scalar_iff {s : Scalar} : (DataType.scalar s).Plain ↔ s ≠ .binary := by
  constructor
  · rintro ⟨s', ⟨⟩, hs⟩
    exact hs
  · exact fun hs => ⟨s, rfl, hs⟩

theorem isScalar_of_plain {t : DataType} (h : t.Plain) : t.isScalar = true := by
  rcases h with ⟨s, rfl, -⟩
  rfl

theorem eq_binary_of_not_plain {t : DataType} (hscalar : t.isScalar = true) (h : ¬ t.Plain) :
    t = .scalar .binary := by
  cases t with
  | scalar s =>
    by_cases hs : s = .binary
    · rw [hs]
    · exact absurd ⟨s, rfl, hs⟩ h
  | _ => cases hscalar

theorem scalarColumn_of_plain {s : Scalar} (h : (DataType.scalar s).Plain) :
    ∃ c, scalarColumn s = .ok c := by
  cases s with
  | binary => exact absurd rfl (plain_scalar_iff.1 h)
  | _ => exact ⟨_, rfl⟩

section Members

variable {members before after : List Field} {f : Field} {part : String}

theorem memberColumn_of_plain (h : f.type.Plain) : ∃ c, memberColumn f = .ok c := by
  rcases h with ⟨s, hs, hbinary⟩
  rcases scalarColumn_of_plain (plain_scalar_iff.2 hbinary) with ⟨c, hc⟩
  simp only [memberColumn, hs, scalarOrNullColumn, hc]
  exact ⟨_, rfl⟩

theorem memberColumn_of_binary (h : f.type = .scalar .binary) :
    memberColumn f = unsupported "binary" := by
  simp only [memberColumn, h]
  rfl

theorem recordColumn_of_scalars (h : ∀ g ∈ members, g.type.isScalar = true) :
    recordColumn members = (members.mapM memberColumn).map fun columns =>
      ⟨.record, .nullable, columns.map fun c => c.2.toFieldSchema c.1 none,
        .struct (columns.map fun c => (c.1, c.2.formatter))⟩ := by
  have hfind : members.find? (fun f => !f.type.isScalar) = none := by
    apply List.find?_eq_none.2
    intro f hf
    simp [h f hf]
  rw [recordColumn, hfind]
  change (members.mapM memberColumn >>= _) = _
  cases members.mapM memberColumn <;> rfl

theorem recordColumn_of_plain (h : ∀ g ∈ members, g.type.Plain) :
    ∃ c, recordColumn members = .ok c := by
  rcases Outcome.exists_forall₂ fun f hf => memberColumn_of_plain (h f hf) with ⟨columns, hcolumns⟩
  rw [recordColumn_of_scalars fun f hf => isScalar_of_plain (h f hf),
    Outcome.mapM_eq_ok_iff.2 hcolumns]
  exact ⟨_, rfl⟩

theorem recordColumn_of_binary (hscalars : ∀ g ∈ members, g.type.isScalar = true)
    (hf : f ∈ members) (hbinary : ¬ f.type.Plain) :
    recordColumn members = unsupported "binary" := by
  rcases all_or_first (fun g : Field => g.type.Plain) members with
    hplain | ⟨before, g, after, rfl, hbefore, hg⟩
  · exact absurd (hplain f hf) hbinary
  · have hfirst := memberColumn_of_binary (eq_binary_of_not_plain (hscalars g (by simp)) hg)
    rw [recordColumn_of_scalars hscalars,
      Outcome.mapM_of_first_error (fun f hf => memberColumn_of_plain (hbefore f hf)) hfirst]
    rfl

theorem recordColumn_of_composite (hbefore : ∀ g ∈ before, g.type.isScalar = true)
    (hf : f.type.isScalar = false) :
    recordColumn (before ++ f :: after) = unsupported f.type.text := by
  have hfind : (before ++ f :: after).find? (fun f => !f.type.isScalar) = some f := by
    apply List.find?_eq_some_iff_append.2
    refine ⟨by simp [hf], before, after, rfl, ?_⟩
    intro g hg
    simp [hbefore g hg]
  rw [recordColumn, hfind]

theorem recordColumn_of_compositeFirst (h : CompositeFirst members part) :
    recordColumn members = unsupported part := by
  cases h with
  | composite hbefore hf => exact recordColumn_of_composite hbefore hf
  | binary hscalars hmem hf => exact recordColumn_of_binary hscalars hmem hf

/-- Unless a binary member is hidden, the first member in order is named. -/
theorem recordColumn_of_firstInOrder (hhidden : ¬ Hidden (.list (.struct members)))
    (h : FirstInOrder members part) : recordColumn members = unsupported part := by
  cases h with
  | @intro before after f hbefore hf =>
    have hscalars : ∀ g ∈ before, g.type.isScalar = true :=
      fun g hg => isScalar_of_plain (hbefore g hg)
    cases hscalar : f.type.isScalar with
    | false => exact recordColumn_of_composite hscalars hscalar
    | true =>
      have hbinary : f.type = .scalar .binary := eq_binary_of_not_plain hscalar hf
      rcases all_or_first (fun g : Field => g.type.isScalar = true) after with
        hafter | ⟨between, g, rest, rfl, hbetween, hg⟩
      · rw [hbinary]
        exact recordColumn_of_binary
          (List.forall_mem_append.2 ⟨hscalars, List.forall_mem_cons.2 ⟨hscalar, hafter⟩⟩)
          (by simp) hf
      · refine absurd ⟨before ++ f :: between, g, rest, by simp, ?_, eq_false_of_ne_true hg,
          f, by simp, hf⟩ hhidden
        exact List.forall_mem_append.2 ⟨hscalars, List.forall_mem_cons.2 ⟨hscalar, hbetween⟩⟩

theorem plain_or_firstInOrder (members : List Field) :
    (∀ f ∈ members, f.type.Plain) ∨ ∃ part, FirstInOrder members part := by
  rcases all_or_first (fun f : Field => f.type.Plain) members with
    hplain | ⟨before, f, after, rfl, hbefore, hf⟩
  · exact .inl hplain
  · exact .inr ⟨_, .intro hbefore hf⟩

theorem plain_or_compositeFirst (members : List Field) :
    (∀ f ∈ members, f.type.Plain) ∨ ∃ part, CompositeFirst members part := by
  rcases all_or_first (fun f : Field => f.type.isScalar = true) members with
    hscalars | ⟨before, f, after, rfl, hbefore, hf⟩
  · rcases all_or_first (fun f : Field => f.type.Plain) members with
      hplain | ⟨before, f, after, rfl, -, hbinary⟩
    · exact .inl hplain
    · exact .inr ⟨_, .binary hscalars (by simp) hbinary⟩
  · exact .inr ⟨_, .composite hbefore (eq_false_of_ne_true hf)⟩

/-- The metadata of the members of a record do not matter. -/
theorem recordColumn_bared (members : List Field) :
    recordColumn (members.map Field.bared) = recordColumn members := by
  rcases all_or_first (fun f : Field => f.type.isScalar = true) members with
    hscalars | ⟨before, f, after, rfl, hbefore, hf⟩
  · have hbared : ∀ f ∈ members.map Field.bared, f.type.isScalar = true :=
      List.forall_mem_map.2 hscalars
    rw [recordColumn_of_scalars hscalars, recordColumn_of_scalars hbared, List.mapM_map]
    rfl
  · have hbared : ∀ f ∈ before.map Field.bared, f.type.isScalar = true :=
      List.forall_mem_map.2 hbefore
    have hcomposite : f.type.isScalar = false := eq_false_of_ne_true hf
    rw [List.map_append, List.map_cons, recordColumn_of_composite hbefore hcomposite]
    exact recordColumn_of_composite (f := f.bared) hbared hcomposite

end Members

/-! ## Types that are not marked -/

theorem insideList_iff {m : Metadata} :
    insideList m = true ↔ m.get? "bigquery.parent_type" = some "array" := by
  rw [insideList, beq_iff_eq]
  rfl

section Unmarked

variable {names : List Field → String → Prop} {t : NeutralType} {part : String}

theorem toColumn_of_mappable (h : Mappable t.type) : ∃ c, toColumn t = .ok c := by
  rcases t with ⟨type, nullable, metadata⟩
  rcases h with hplain | ⟨element, rfl, hplain⟩ | ⟨members, rfl, hmembers⟩
  · rcases hplain with ⟨s, rfl, hs⟩
    rcases scalarColumn_of_plain (plain_scalar_iff.2 hs) with ⟨c, hc⟩
    rw [toColumn_scalar, scalarOrNullColumn, hc]
    exact ⟨_, rfl⟩
  · rcases hplain with ⟨s, rfl, hs⟩
    rcases scalarColumn_of_plain (plain_scalar_iff.2 hs) with ⟨c, hc⟩
    rw [toColumn_list, elementColumn, hc]
    exact ⟨_, rfl⟩
  · rcases recordColumn_of_plain hmembers with ⟨c, hc⟩
    rw [toColumn_list, elementColumn, hc]
    exact ⟨_, rfl⟩

theorem toColumn_of_offends (hmarked : ¬ Marked t)
    (hnames : ∀ members part, t.type = .list (.struct members) → names members part →
      recordColumn members = unsupported part)
    (h : Offends names t.type part) : toColumn t = unsupported part := by
  rcases t with ⟨type, nullable, metadata⟩
  cases h with
  | binary => rfl
  | binaryElement => rfl
  | listElement inner => rfl
  | record members =>
    rw [toColumn_struct, if_neg fun hinside => hmarked ⟨rfl, insideList_iff.1 hinside⟩]
  | members hmember =>
    rw [toColumn_list, elementColumn, hnames _ _ rfl hmember]
    rfl

theorem mappable_or_offends
    (htotal : ∀ members, (∀ f ∈ members, f.type.Plain) ∨ ∃ part, names members part)
    (type : DataType) : Mappable type ∨ ∃ part, Offends names type part := by
  have hscalar : ∀ s, (DataType.scalar s).Plain ∨ s = .binary := by
    intro s
    by_cases hs : s = .binary
    · exact .inr hs
    · exact .inl (plain_scalar_iff.2 hs)
  cases type with
  | scalar s =>
    rcases hscalar s with hplain | rfl
    · exact .inl (.inl hplain)
    · exact .inr ⟨_, .binary⟩
  | struct members => exact .inr ⟨_, .record members⟩
  | list element =>
    cases element with
    | scalar s =>
      rcases hscalar s with hplain | rfl
      · exact .inl (.inr (.inl ⟨_, rfl, hplain⟩))
      · exact .inr ⟨_, .binaryElement⟩
    | list inner => exact .inr ⟨_, .listElement inner⟩
    | struct members =>
      rcases htotal members with hplain | ⟨part, hpart⟩
      · exact .inl (.inr (.inr ⟨members, rfl, hplain⟩))
      · exact .inr ⟨part, .members hpart⟩

theorem toColumn_metadata (hmarked : ¬ Marked t) :
    toColumn t = toColumn { t with metadata := ∅ } := by
  rcases t with ⟨type, nullable, metadata⟩
  cases type with
  | struct members =>
    have hempty : ¬ insideList ∅ := by decide
    rw [toColumn_struct, toColumn_struct, if_neg fun hinside => hmarked ⟨rfl, insideList_iff.1 hinside⟩,
      if_neg hempty]
  | _ => rfl

/-- If the members that are named are those that the mapper names, what is documented holds. -/
theorem asDocumented_of_names (hmarked : ¬ Marked t)
    (hnames : ∀ members part, t.type = .list (.struct members) → names members part →
      recordColumn members = unsupported part)
    (htotal : ∀ members, (∀ f ∈ members, f.type.Plain) ∨ ∃ part, names members part) :
    AsDocumented names t := by
  rcases accepts_and_refuses toColumn_of_mappable
    (fun part hoffends => toColumn_of_offends hmarked hnames hoffends)
    (mappable_or_offends htotal t.type) with ⟨haccepts, hrefuses⟩
  refine ⟨haccepts, hrefuses, toColumn_metadata hmarked, ?_⟩
  intro members htype
  rcases t with ⟨type, nullable, metadata⟩
  cases htype
  exact congrArg (fun o : Outcome ColumnType => o.map ColumnType.repeated)
    (recordColumn_bared members)

end Unmarked

/-! ## The exceptions -/

theorem length_text_le_of_mem {members : List Field} {f : Field} (h : f ∈ members) :
    f.type.text.length ≤ (fieldsText members).length := by
  induction members with
  | nil => cases h
  | cons g rest ih =>
    rcases g with ⟨name, type, nullable, metadata⟩
    cases rest with
    | nil =>
      cases List.mem_singleton.1 h
      simp only [fieldsText, String.length_append]
      omega
    | cons g rest =>
      simp only [fieldsText, String.length_append]
      rcases List.mem_cons.1 h with rfl | h
      · simp only
        omega
      · have hrest := ih h
        omega

/-- A record is not named by the text of a member. -/
theorem text_ne_of_mem {members : List Field} {f : Field} (h : f ∈ members) :
    f.type.text ≠ (DataType.struct members).text := by
  intro heq
  have hle := length_text_le_of_mem h
  have hlonger : (fieldsText members).length < (DataType.struct members).text.length := by
    have hopening : "struct<".length = 7 := rfl
    simp only [DataType.text, String.length_append]
    omega
  rw [heq] at hle
  exact Nat.not_le.2 hlonger hle

theorem text_ne_binary {t : DataType} (h : t.isScalar = false) : t.text ≠ "binary" := by
  intro heq
  have hchars := congrArg String.toList heq
  cases t with
  | scalar s => cases h
  | list element => simp [DataType.text] at hchars
  | struct members => simp [DataType.text] at hchars

theorem exists_mem_of_compositeFirst {members : List Field} {part : String}
    (h : CompositeFirst members part) : ∃ f ∈ members, f.type.text = part := by
  cases h with
  | @composite before after f hbefore hf => exact ⟨f, by simp, rfl⟩
  | @binary _ f hscalars hmem hf =>
    have hbinary : f.type = .scalar .binary := eq_binary_of_not_plain (hscalars f hmem) hf
    exact ⟨f, hmem, by rw [hbinary]; rfl⟩

/-- A marked record is never treated as is documented, whichever members are named. -/
theorem not_asDocumented_of_marked {names : List Field → String → Prop} {t : NeutralType}
    (hmarked : Marked t) : ¬ AsDocumented names t := by
  intro h
  rcases t with ⟨type, nullable, metadata⟩
  cases type with
  | struct members =>
    have hrecord : toColumn ⟨.struct members, nullable, metadata⟩ = recordColumn members :=
      if_pos (insideList_iff.2 hmarked.2)
    rcases plain_or_compositeFirst members with hplain | ⟨part, hpart⟩
    · -- It is accepted, though it is not in a list.
      rcases recordColumn_of_plain hplain with ⟨c, hc⟩
      rcases h.accepts.1 ⟨c, hrecord.trans hc⟩ with ⟨s, ⟨⟩, -⟩ | ⟨element, ⟨⟩, -⟩ | ⟨ms, ⟨⟩, -⟩
    · -- It is refused for a member, though none is to be looked at.
      rcases (h.refuses _).1 (hrecord.trans (recordColumn_of_compositeFirst hpart)) with
        ⟨part', hoffends, he⟩
      cases hoffends
      cases he
      rcases exists_mem_of_compositeFirst hpart with ⟨f, hf, htext⟩
      exact text_ne_of_mem hf htext
  | _ => cases hmarked.1

/-- A binary member that is hidden is not named. -/
theorem not_asDocumented_of_hidden {t : NeutralType} (hhidden : Hidden t.type) :
    ¬ AsDocumented FirstInOrder t := by
  intro h
  rcases t with ⟨type, nullable, metadata⟩
  rcases hhidden with ⟨before, f, after, rfl, hbefore, hf, g, hg, hbinary⟩
  rcases all_or_first (fun g : Field => g.type.Plain) before with
    hplain | ⟨first, b, rest, rfl, hfirst, hb⟩
  · exact hbinary (hplain g hg)
  · have htext : b.type.text = "binary" := by
      rw [eq_binary_of_not_plain (hbefore b (by simp)) hb]
      rfl
    have hnamed : FirstInOrder ((first ++ b :: rest) ++ f :: after) "binary" := by
      rw [List.append_assoc, List.cons_append, ← htext]
      exact .intro hfirst hb
    have hcode :
        toColumn ⟨.list (.struct ((first ++ b :: rest) ++ f :: after)), nullable, metadata⟩ =
          unsupported f.type.text := by
      rw [toColumn_list, elementColumn, recordColumn_of_composite hbefore hf]
      rfl
    have hdocumented := (h.refuses _).2 ⟨_, .members hnamed, rfl⟩
    have hsame := Except.error.inj (hcode.symm.trans hdocumented)
    exact text_ne_binary hf (Failure.unsupportedMapping.inj hsame).1

/-- The rules of the mapper end for every type. What is documented holds for exactly the types that
are not marked, if lists and records are named before binary members, and if the first member in
order is to be named, for exactly those that are neither marked nor hide a binary member. -/
theorem mapper_as_documented_iff (t : NeutralType) :
    (∀ depth, size t < depth → unrolled mapperName rules depth t = mapper.toWarehouse t) ∧
      (AsDocumented CompositeFirst t ↔ ¬ Marked t) ∧
      (AsDocumented FirstInOrder t ↔ ¬ Marked t ∧ ¬ Hidden t.type) := by
  refine ⟨fun depth hdepth => unrolled_eq size rules_eq_toColumn hdepth, ?_, ?_⟩
  · constructor
    · exact fun h hmarked => not_asDocumented_of_marked hmarked h
    · intro hmarked
      exact asDocumented_of_names hmarked (fun _ _ _ => recordColumn_of_compositeFirst)
        plain_or_compositeFirst
  · constructor
    · intro h
      exact ⟨fun hmarked => not_asDocumented_of_marked hmarked h,
        fun hhidden => not_asDocumented_of_hidden hhidden h⟩
    · rintro ⟨hmarked, hhidden⟩
      refine asDocumented_of_names hmarked ?_ plain_or_firstInOrder
      intro members part htype
      exact recordColumn_of_firstInOrder (htype ▸ hhidden)

/-- A record outside of a list, with the entry that the mapper sets for the elements of lists. -/
def smuggled : NeutralType :=
  ⟨.struct [.plain "n" (.scalar .int64) false], false, inside "array"⟩

/-- It has a column, though it is not mappable. -/
theorem smuggled_record_accepted :
    (∃ c, mapper.toWarehouse smuggled = .ok c) ∧ ¬ Mappable smuggled.type := by
  constructor
  · have hplain : ∀ f ∈ [Field.plain "n" (.scalar .int64) false], f.type.Plain :=
      List.forall_mem_singleton.2 ⟨.int64, rfl, nofun⟩
    rcases recordColumn_of_plain hplain with ⟨c, hc⟩
    refine ⟨c, ?_⟩
    change toColumn smuggled = _
    rw [smuggled, toColumn_struct, if_pos insideList_inside, hc]
  · rintro (⟨s, ⟨⟩, -⟩ | ⟨element, ⟨⟩, -⟩ | ⟨members, ⟨⟩, -⟩)

end BigQuery
end Ingest
