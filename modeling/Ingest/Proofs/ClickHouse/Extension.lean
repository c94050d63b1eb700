import Ingest.Proofs.ClickHouse.Folding
import Ingest.Proofs.Outcome
import Ingest.Proofs.Schema.Coverage

/-!
# Extended tables

`Extended` describes a table while the new fields of a schema are added to it: behind the columns
that there were stands one declared column for each field that was added. When nothing is left to
add, the table covers the schema exactly if every new field could be told apart from the columns
before (`Extended.complete_iff`).
-/

namespace Ingest
namespace ClickHouse

/-- The fields that columns are read back as. -/
abbrev Reads (columns : List ColumnInfo) (existing : List Field) : Prop :=
  List.Forall₂ (fun info e => Setup.existingField info = .ok e) columns existing

/-- The columns that fields are declared as. -/
abbrev Declares (zones : Calendar.ZoneDatabase) (fields : List Field)
    (columns : List ColumnInfo) : Prop :=
  List.Forall₂ (fun f info => declaredColumn zones f = .ok info) fields columns

/-- The fields of a schema whose names no folded column of a table has. -/
def newFields (columns : List ColumnInfo) (s : Schema) : List Field :=
  s.fields.filter fun f => f.name ∉ (foldColumns columns).map (·.name)

/-- The columns of a table can be read and cover every field of a schema. -/
def Complete (columns : List ColumnInfo) (s : Schema) : Prop :=
  ∃ existing, Reads (foldColumns columns) existing ∧
    ∀ f ∈ s.fields, Covers checker (indexFields existing) f

/-- New fields of a schema are found again in a table when they were added: no column has the name
of one, not even a part of a nested column, and each fits the column that it is declared as. -/
def Recoverable (columns : List ColumnInfo) (s : Schema) : Prop :=
  ∀ f ∈ newFields columns s, f.name ∉ columns.map (·.name) ∧ Storable f

instance (columns : List ColumnInfo) (s : Schema) : Decidable (Recoverable columns s) :=
  inferInstanceAs (Decidable (∀ f ∈ newFields columns s, _ ∧ _))

section Lists

variable {zones : Calendar.ZoneDatabase} {columns : List ColumnInfo} {s : Schema}

theorem mem_newFields {f : Field} :
    f ∈ newFields columns s ↔ f ∈ s.fields ∧ f.name ∉ (foldColumns columns).map (·.name) := by
  simp [newFields]

theorem newFields_nil (s : Schema) : newFields [] s = s.fields :=
  List.filter_eq_self.2 fun _ _ => by simp [foldColumns_nil]

theorem nodup_of_sublist {fields : List Field} (h : fields.Sublist (newFields columns s)) :
    (fields.map (·.name)).Nodup :=
  s.nodup.sublist ((h.trans List.filter_sublist).map _)

theorem names_of_reads {existing : List Field} (h : Reads columns existing) :
    existing.map (·.name) = columns.map (·.name) := by
  refine Outcome.map_eq_of_forall₂ ?_ h
  intro info e he
  exact (existingField_eq_ok he).1

theorem names_of_declares {fields : List Field} (h : Declares zones fields columns) :
    columns.map (·.name) = fields.map (·.name) := by
  refine Outcome.map_eq_of_forall₂ ?_ h
  intro f info hinfo
  exact name_of_declaredColumn hinfo

/-- A field is covered by a column of its name that it fits. -/
theorem exists_column_of_covers {existing : List Field} (h : Reads columns existing) {f : Field}
    (hf : Covers checker (indexFields existing) f) :
    ∃ info ∈ columns, info.name = f.name ∧ Fits info f := by
  rcases hf with ⟨e, he, hfits⟩
  rcases mem_of_indexFields he with ⟨hmem, hname⟩
  rcases Outcome.exists_of_forall₂ h hmem with ⟨info, hinfo, hread⟩
  have hkept : e.name = info.name := (existingField_eq_ok hread).1
  exact ⟨info, hinfo, hkept.symm.trans hname, e, hread, hfits⟩

/-- Columns that store their fields are no parts of nested columns. -/
theorem whole_of_storable (hz : PlainZones zones) {fields : List Field}
    (h : Declares zones fields columns) (hst : ∀ f ∈ fields, Storable f) :
    ∀ info ∈ columns, info.flatPart? = none := by
  intro info hinfo
  rcases Outcome.exists_of_forall₂ h hinfo with ⟨f, hf, hdeclared⟩
  exact ((storable_iff hz hdeclared).1 (hst f hf)).2

/-- Columns that store their fields are read back as fields that take their values. -/
theorem reads_of_storable (hz : PlainZones zones) {fields : List Field}
    (h : Declares zones fields columns) (hst : ∀ f ∈ fields, Storable f) :
    ∃ existing, Reads columns existing ∧
      List.Forall₂ (fun e f => e.name = f.name ∧ checker e f = none) existing fields := by
  induction h with
  | nil => exact ⟨[], .nil, .nil⟩
  | @cons f info fields infos hinfo _ ih =>
    have hrest : ∀ f' ∈ fields, Storable f' := by
      intro f' hf'
      exact hst f' (List.mem_cons_of_mem f hf')
    have hfits : Fits info f := ((storable_iff hz hinfo).1 (hst f List.mem_cons_self)).1
    rcases hfits with ⟨e, he, hchecks⟩
    rcases ih hrest with ⟨existing, hread, hfit⟩
    have hname : e.name = f.name :=
      (existingField_eq_ok he).1.trans (name_of_declaredColumn hinfo)
    exact ⟨e :: existing, .cons he hread, .cons ⟨hname, hchecks⟩ hfit⟩

end Lists

/-! ## Adding columns -/

/-- A table whose columns could be compared with a schema, and that got columns for some new fields
of the schema while others are still to be added. Unless a field is not recoverable, none is
passed over. -/
structure Extended (zones : Calendar.ZoneDatabase) (before : List ColumnInfo) (s : Schema)
    (rest : List Field) (columns : List ColumnInfo) : Prop where
  compared : ∃ existing, Reads (foldColumns before) existing ∧
    ∀ f ∈ s.fields, ∀ e, indexFields existing f.name = some e → checker e f = none
  extended : ∃ added infos, columns = before ++ infos ∧ Declares zones added infos ∧
    (added ++ rest).Sublist (newFields before s) ∧
      (∀ f ∈ added, f.name ∉ before.map (·.name)) ∧
        (Recoverable before s → added ++ rest = newFields before s)

namespace Extended

variable {zones : Calendar.ZoneDatabase} {before columns : List ColumnInfo} {s : Schema}
  {rest : List Field}

/-- A table that is created has a column for every field. -/
theorem of_declares (h : Declares zones s.fields columns) : Extended zones [] s [] columns where
  compared := by
    refine ⟨[], .nil, ?_⟩
    intro f _ e he
    cases he
  extended := by
    have hall : s.fields ++ [] = newFields [] s := by
      rw [List.append_nil, newFields_nil]
    exact ⟨s.fields, columns, rfl, h, hall ▸ List.Sublist.refl _, nofun, fun _ => hall⟩

/-- The comparison with a table finds its new fields missing. -/
theorem of_missingColumns {existing : List Field} (hread : Reads (foldColumns before) existing)
    {table : String}
    (h : Ingest.missingColumns table (indexFields existing) checker s = .ok rest) :
    Extended zones before s rest before := by
  rcases missingColumns_eq_ok_iff.1 h with ⟨hfits, hrest⟩
  have hnew : rest = newFields before s := by
    rw [← hrest]
    apply List.filter_congr
    intro f _
    rw [Bool.eq_iff_iff, Option.isNone_iff_eq_none, decide_eq_true_iff, indexFields_eq_none_iff,
      names_of_reads hread]
  refine ⟨⟨existing, hread, hfits⟩, [], [], ?_, .nil, ?_, nofun, fun _ => hnew⟩
  · rw [List.append_nil]
  · rw [hnew]
    exact List.Sublist.refl _

theorem mem_fields (h : Extended zones before s rest columns) {f : Field} (hf : f ∈ rest) :
    f ∈ s.fields := by
  rcases h.extended with ⟨added, infos, -, -, hsub, -⟩
  have hnew : f ∈ newFields before s := hsub.subset (List.mem_append_right added hf)
  exact (mem_newFields.1 hnew).1

/-- A column is added for the next field. -/
theorem add {f : Field} {info : ColumnInfo} (h : Extended zones before s (f :: rest) columns)
    (hinfo : declaredColumn zones f = .ok info) (hnew : f.name ∉ columns.map (·.name)) :
    Extended zones before s rest (columns ++ [info]) := by
  rcases h with ⟨hcompared, added, infos, rfl, hdeclares, hsub, hadded, hall⟩
  -- The field moves from those that are to be added to those that were.
  have hbehind : added ++ f :: rest = (added ++ [f]) ++ rest := by simp
  rw [hbehind] at hsub hall
  have hdeclares' : Declares zones (added ++ [f]) (infos ++ [info]) :=
    List.rel_append hdeclares (.cons hinfo .nil)
  refine ⟨hcompared, added ++ [f], infos ++ [info], ?_, hdeclares', hsub, ?_, hall⟩
  · rw [List.append_assoc]
  · intro g hg
    rcases List.mem_append.1 hg with hg | hg
    · exact hadded g hg
    · rw [List.mem_singleton.1 hg]
      intro hold
      exact hnew (by rw [List.map_append]; exact List.mem_append_left _ hold)

/-- The next field is passed over as there is a column of its name. -/
theorem skip (hz : PlainZones zones) {f : Field}
    (h : Extended zones before s (f :: rest) columns)
    (hold : f.name ∈ (foldColumns columns).map (·.name) ∨ f.name ∈ columns.map (·.name)) :
    Extended zones before s rest columns := by
  rcases h with ⟨hcompared, added, infos, rfl, hdeclares, hsub, hadded, hall⟩
  have hshorter : (added ++ rest).Sublist (added ++ f :: rest) :=
    (List.sublist_cons_self f rest).append_left added
  refine ⟨hcompared, added, infos, rfl, hdeclares, hshorter.trans hsub, hadded, ?_⟩
  -- With recoverable fields this does not happen: the columns that were added are not folded, and
  -- no two fields have one name.
  intro hrec
  exfalso
  have hnd : ((added ++ f :: rest).map (·.name)).Nodup := nodup_of_sublist hsub
  have hnotAdded : f.name ∉ infos.map (·.name) := by
    rw [names_of_declares hdeclares]
    rw [List.map_append, List.map_cons] at hnd
    intro hmem
    exact (List.disjoint_of_nodup_append hnd) hmem List.mem_cons_self
  have hnew : f ∈ newFields before s := hsub.subset (by simp)
  have hstorable : ∀ g ∈ added, Storable g := by
    intro g hg
    exact (hrec g (hsub.subset (List.mem_append_left _ hg))).2
  have hfold : foldColumns (before ++ infos) = foldColumns before ++ infos :=
    foldColumns_append (whole_of_storable hz hdeclares hstorable)
  rw [hfold, List.map_append, List.map_append, List.mem_append, List.mem_append] at hold
  rcases hold with (hfolded | hmem) | (hraw | hmem)
  · exact (mem_newFields.1 hnew).2 hfolded
  · exact hnotAdded hmem
  · exact (hrec f hnew).1 hraw
  · exact hnotAdded hmem

/-- What the columns are that were added to a table that covers the schema: none of them is taken
for a part, as each keeps its name. -/
theorem whole_of_complete {added : List Field} {infos : List ColumnInfo}
    (hdeclares : Declares zones added infos) (hsub : added.Sublist (newFields before s))
    (hadded : ∀ f ∈ added, f.name ∉ before.map (·.name))
    (h : Complete (before ++ infos) s) : ∀ info ∈ infos, info.flatPart? = none := by
  intro info hinfo
  refine Classical.byContradiction fun hpart => ?_
  rcases Outcome.exists_of_forall₂ hdeclares hinfo with ⟨f, hf, hdeclared⟩
  have hname : info.name = f.name := name_of_declaredColumn hdeclared
  have hstop : '.' ∈ f.name.toList := by
    rw [flatPart?_eq_none_iff, Classical.not_not] at hpart
    rw [← hname]
    exact hpart.1
  rcases h with ⟨existing, hread, hcovers⟩
  -- The field is covered by a column of its name, which has a full stop and is not folded.
  have hcovered := hcovers f (mem_newFields.1 (hsub.subset hf)).1
  rcases exists_column_of_covers hread hcovered with ⟨info', hmem, hname', -⟩
  rcases mem_foldColumns hmem with ⟨hcolumn, hwhole⟩ | hno
  · rcases List.mem_append.1 hcolumn with hold | hnew
    · exact hadded f hf (hname' ▸ List.mem_map_of_mem hold)
    · -- Among the columns that were added this one is the only one of its name.
      have hnd : (infos.map (·.name)).Nodup := by
        rw [names_of_declares hdeclares]
        exact nodup_of_sublist hsub
      have hsame : info' = info :=
        List.inj_on_of_nodup_map hnd hnew hinfo (hname'.trans hname.symm)
      exact hpart (hsame ▸ hwhole)
  · exact hno (hname' ▸ hstop)

theorem recoverable_of_complete (hz : PlainZones zones) (h : Extended zones before s [] columns)
    (hcomplete : Complete columns s) : Recoverable before s := by
  rcases h with ⟨-, added, infos, rfl, hdeclares, hsub, hadded, -⟩
  rw [List.append_nil] at hsub
  intro f hf
  -- None of the added columns is a part, so that they stand behind the folded ones.
  have hwhole := whole_of_complete hdeclares hsub hadded hcomplete
  rcases hcomplete with ⟨existing', hread', hcovers⟩
  have hcovered := hcovers f (mem_newFields.1 hf).1
  rcases exists_column_of_covers hread' hcovered with ⟨info, hmem, hname, hfit⟩
  rw [foldColumns_append hwhole] at hmem
  rcases List.mem_append.1 hmem with hold | hnew
  · exact absurd (hname ▸ List.mem_map_of_mem hold) (mem_newFields.1 hf).2
  · rcases Outcome.exists_of_forall₂ hdeclares hnew with ⟨g, hg, hdeclared⟩
    have hfield : g ∈ s.fields := (mem_newFields.1 (hsub.subset hg)).1
    have hgname : g.name = f.name := (name_of_declaredColumn hdeclared).symm.trans hname
    -- Names are distinct in the schema, so that the column was declared for the field itself.
    have hsame : g = f := List.inj_on_of_nodup_map s.nodup hfield (mem_newFields.1 hf).1 hgname
    rw [hsame] at hg hdeclared
    exact ⟨hadded f hg, (storable_iff hz hdeclared).2 ⟨hfit, hwhole info hnew⟩⟩

theorem complete_of_recoverable (hz : PlainZones zones) (h : Extended zones before s [] columns)
    (hrec : Recoverable before s) : Complete columns s := by
  rcases h with ⟨⟨existing, hread, hfits⟩, added, infos, rfl, hdeclares, hsub, -, hall⟩
  rw [List.append_nil] at hsub hall
  have hadded : added = newFields before s := hall hrec
  have hstorable : ∀ f ∈ added, Storable f := by
    intro f hf
    exact (hrec f (hadded ▸ hf)).2
  rcases reads_of_storable hz hdeclares hstorable with ⟨newer, hnewer, hnewFits⟩
  refine ⟨existing ++ newer, ?_, ?_⟩
  · rw [foldColumns_append (whole_of_storable hz hdeclares hstorable)]
    exact List.rel_append hread hnewer
  · have hnames : newer.map (·.name) = added.map (·.name) := by
      rw [names_of_reads hnewer, names_of_declares hdeclares]
    intro f hf
    by_cases hknown : f.name ∈ (foldColumns before).map (·.name)
    · -- The new columns have other names, so the old one is found.
      have hother : indexFields newer f.name = none := by
        rw [indexFields_eq_none_iff, hnames, hadded]
        intro hmem
        rcases List.mem_map.1 hmem with ⟨g, hg, hname⟩
        exact (mem_newFields.1 hg).2 (hname ▸ hknown)
      rw [← names_of_reads hread] at hknown
      rcases Option.isSome_iff_exists.1 (indexFields_isSome_iff.2 hknown) with ⟨e, he⟩
      refine ⟨e, ?_, hfits f hf e he⟩
      rw [indexFields_append, hother, he]
      rfl
    -- A new field is found in the column that was declared for it.
    · have hmem : f ∈ added := hadded ▸ mem_newFields.2 ⟨hf, hknown⟩
      rcases Outcome.exists_of_forall₂ hnewFits hmem with ⟨e, he, hname, hchecks⟩
      have hnd : (newer.map (·.name)).Nodup := by
        rw [hnames]
        exact nodup_of_sublist hsub
      refine ⟨e, ?_, hchecks⟩
      rw [indexFields_append, ← hname, indexFields_of_mem hnd he]
      rfl

/-- With all columns added, the table covers the schema exactly if the new fields are
recoverable. -/
theorem complete_iff (hz : PlainZones zones) (h : Extended zones before s [] columns) :
    Complete columns s ↔ Recoverable before s :=
  ⟨h.recoverable_of_complete hz, h.complete_of_recoverable hz⟩

end Extended

end ClickHouse
end Ingest
