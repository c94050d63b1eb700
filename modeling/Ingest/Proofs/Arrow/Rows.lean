import Ingest.Proofs.Arrow.Slots

/-!
# Rows of a batch

Rows are filled column by column. A column under a new name leaves what the columns before it have
put into the rows (`reports_insertColumn`), so that at the end each row shows the slots of all.
Main statement: `rows_conform`. The rows of a batch are those that its schema promises, unless a
count lies beyond the calendar, of which the first is reported.
-/

namespace Ingest
namespace Arrow

open scoped List

/-! ## Columns and rows -/

section Columns

variable {n : Nat}

namespace Column

def strays (c : Column n) : List Stray :=
  c.slots.flatMap fun slot => slot.elim [] (Arrow.strays c.field.type)

/-- The values of a column stand under the name of a field and are of its type. -/
def Serves (c : Column n) (f : Field) : Prop :=
  f.name = c.field.name ∧ ReadsAs c.field.type f.type

/-- A row has, under the name of a field, the value of a slot of a column, null only if the slot
is null, and the value is of the type of the field. -/
def ShownIn (row : Row) (i : Nat) (c : Column n) (f : Field) : Prop :=
  ∃ slot, c.slots[i]? = some slot ∧
    SlotShows (Shows c.field.type) slot (Row.value row f.name) ∧
      (Row.value row f.name).OfType f.type

end Column

/-- There are as many rows as slots in each column, and each has exactly the fields as its columns,
with the values of its slots. -/
def Filled (cs : List (Column n)) (fs : List Field) (rows : List Row) : Prop :=
  rows.length = n ∧ ∀ i row, rows[i]? = some row →
    (row.map (·.1)).Perm (fs.map (·.name)) ∧ List.Forall₂ (Column.ShownIn row i) cs fs

theorem Column.ShownIn.insert {row : Row} {i : Nat} {c : Column n} {f : Field}
    (h : c.ShownIn row i f) {name : String} (hne : f.name ≠ name) (v : Value) :
    c.ShownIn (Dict.insert row name v) i f := by
  have hsame : Row.value (Dict.insert row name v) f.name = Row.value row f.name := by
    rw [Row.value, Dict.get?_insert, if_neg hne, Row.value]
  rw [ShownIn, hsame]
  exact h

/-- A column with a new name is added to every row. -/
theorem reports_insertColumn {cs : List (Column n)} {fs : List Field} {rows : List Row}
    (hrows : Filled cs fs rows) {c : Column n} {f : Field} (hserves : c.Serves f)
    (hnew : f.name ∉ fs.map (·.name)) :
    Reports c.strays (Filled (cs ++ [c]) (fs ++ [f])) (Batch.insertColumn rows c) := by
  obtain ⟨hname, hread⟩ := hserves
  rw [Batch.insertColumn, ← hname]
  have hvalues := Reports.mapM fun slot (_ : slot ∈ c.slots) => hread.slot slot
  refine hvalues.map fun vs hvs => ⟨?_, fun i row hrow => ?_⟩
  · rw [List.length_zipWith, hrows.1, ← hvs.length_eq, c.length_slots, Nat.min_self]
  obtain ⟨old, v, hold, hv, rfl⟩ := List.getElem?_zipWith_eq_some.1 hrow
  obtain ⟨hi, rfl⟩ := List.getElem?_eq_some_iff.1 hv
  obtain ⟨hnames, hshown⟩ := hrows.2 i old hold
  have hkey : f.name ∉ old.map (·.1) := fun hmem => hnew (hnames.mem_iff.1 hmem)
  refine ⟨?_, List.rel_append ?_ (.cons ?_ .nil)⟩
  · have hinsert : ((Dict.insert old f.name vs[i]).map (·.1)).Perm (f.name :: old.map (·.1)) :=
      (Dict.perm_insert_of_not_mem hkey _).map (·.1)
    rw [List.map_append]
    calc
      (Dict.insert old f.name vs[i]).map (·.1)
          ~ f.name :: old.map (·.1) := hinsert
      _ ~ f.name :: fs.map (·.name) := hnames.cons f.name
      _ ~ fs.map (·.name) ++ [f.name] := (List.perm_append_singleton _ _).symm
  -- The earlier columns have other names.
  · refine List.forall₂_iff_zip.2 ⟨hshown.length_eq, fun {c' f'} hzip => ?_⟩
    have hmem : f' ∈ fs := (List.of_mem_zip hzip).2
    have hne : f'.name ≠ f.name := fun heq => hnew (heq ▸ List.mem_map_of_mem hmem)
    exact (List.forall₂_zip hshown hzip).insert hne vs[i]
  · have hslot : i < c.slots.length := hvs.length_eq ▸ hi
    have hvalue : Row.value (Dict.insert old f.name vs[i]) f.name = vs[i] := by
      rw [Row.value, Dict.get?_insert, if_pos rfl]
      rfl
    refine ⟨c.slots[i], List.getElem?_eq_getElem hslot, ?_⟩
    rw [hvalue]
    exact hvs.get hslot hi

/-- Columns under names that all differ are added one after the other. -/
theorem reports_insertColumns {cs todo : List (Column n)} {fs more : List Field}
    {rows : List Row} (hrows : Filled cs fs rows) (hserve : List.Forall₂ Column.Serves todo more)
    (hdistinct : ((fs ++ more).map (·.name)).Nodup) :
    Reports (todo.flatMap Column.strays) (Filled (cs ++ todo) (fs ++ more))
      (todo.foldlM Batch.insertColumn rows) := by
  -- The induction is on the columns to come; the rows always hold those that came before.
  induction hserve generalizing cs fs rows with
  | nil =>
    rw [List.append_nil, List.append_nil]
    exact .ok hrows
  | @cons c f todo more hfirst _ ih =>
    have hnew : f.name ∉ fs.map (·.name) := by
      rw [List.map_append, List.map_cons] at hdistinct
      exact fun hmem => (List.nodup_append.1 hdistinct).2.2 _ hmem _ List.mem_cons_self rfl
    rw [List.foldlM_cons, List.flatMap_cons]
    refine (reports_insertColumn hrows hfirst hnew).bind fun rows' hrows' => ?_
    have hrest := ih hrows' (by rwa [List.append_assoc, List.singleton_append])
    rwa [List.append_assoc, List.append_assoc] at hrest

end Columns

/-! ## Batches -/

/-- The counts of a batch beyond the calendar, column by column and row by row. -/
def Batch.strays (b : Batch) : List Stray :=
  b.columns.flatMap Column.strays

theorem serves_of_toFields {n : Nat} {cs : List (Column n)} {fs : List Field}
    (h : toFields (cs.map (·.field)) = .ok fs)
    (hdistinct : ∀ f ∈ fs, f.type.distinctNames = true) :
    List.Forall₂ Column.Serves cs fs := by
  induction cs generalizing fs with
  | nil =>
    cases h
    exact .nil
  | cons c rest ih =>
    obtain ⟨⟨name, type, nullable, metadata⟩, slots, hlength⟩ := c
    rcases Outcome.bind_eq_ok h with ⟨t, ht, h⟩
    rcases Outcome.bind_eq_ok h with ⟨others, hothers, h⟩
    cases h
    obtain ⟨hfirst, hrest⟩ := List.forall_mem_cons.1 hdistinct
    exact .cons ⟨rfl, readsAs_of_toDataType type ht hfirst⟩ (ih hothers hrest)

theorem reports_toRows {b : Batch} {s : Schema} (hschema : b.schema.toSchema = .ok s)
    (hdistinct : ∀ f ∈ s.fields, f.type.distinctNames = true) :
    Reports b.strays (Filled b.columns s.fields) b.toRows := by
  rcases Outcome.bind_eq_ok hschema with ⟨fields, hfields, hs⟩
  rw [← Schema.ofFields_eq_ok_iff.1 hs] at hfields
  -- Before the first column there are rows without entries.
  have hempty : Filled (n := b.numRows) [] [] (List.replicate b.numRows []) := by
    refine ⟨List.length_replicate, fun i row hrow => ?_⟩
    obtain rfl := List.eq_of_mem_replicate (List.mem_of_getElem? hrow)
    exact ⟨.nil, .nil⟩
  exact reports_insertColumns hempty (serves_of_toFields hfields hdistinct) s.nodup

/-- Where the columns of a batch have neutral types, the members of each record under distinct
names, reading rows fails exactly where a count lies beyond the calendar, with the first such count.
Otherwise there is a row for each row of the batch. Each row has exactly the columns of the schema,
null exactly for the slots that are null, and everywhere else the value of the slot, which is of the
type that the schema says. -/
theorem rows_conform {b : Batch} {s : Schema} (hschema : b.schema.toSchema = .ok s)
    (hdistinct : ∀ f ∈ s.fields, f.type.distinctNames = true) :
    (∀ e, b.toRows = .error e ↔ ∃ x, b.strays.head? = some x ∧
        e = .valueOutOfRange (Text.intText x.count) x.target) ∧
      ∀ rows : List Row, b.toRows = .ok rows → rows.length = b.numRows ∧
        ∀ (i : Nat) (row : Row), rows[i]? = some row → (row.map (·.1)).Perm s.names ∧
          List.Forall₂ (Column.ShownIn row i) b.columns s.fields := by
  have hreports := reports_toRows hschema hdistinct
  exact ⟨fun e => hreports.eq_error_iff, fun rows hrows => hreports.of_ok hrows⟩

/-- A batch that ends with the last day of the calendar, null, an empty list and a timestamp before
the epoch is read in two rows. With the day after the last one it is refused for that day, though a
timestamp further on lies beyond the calendar as well. -/
theorem rows_conform_last_day :
    let mark : ArrowType := .struct [⟨"at", .timestamp .second none, true, ∅⟩,
      ⟨"note", .utf8 .large, true, ∅⟩]
    let batch (day : Int32) (seconds : Int64) : Batch :=
      ⟨2, [⟨⟨"day", .date32, true, ∅⟩, [none, some day], rfl⟩,
        ⟨⟨"marks", .list .large ⟨"element", mark, false, ∅⟩, true, ∅⟩, [some ([] : List (Slot mark)),
          some [none, some ((some seconds, none, ()) : Option Int64 × Option String × Unit)]], rfl⟩]⟩
    (∃ rows, (batch 95026236 (-1)).toRows = .ok rows ∧ rows.length = 2) ∧
      (batch 95026237 Int64.maxValue).toRows =
        .error (.valueOutOfRange (Text.intText 95026237) "date32") := by
  intro mark batch
  have hschema : ∀ day seconds, (batch day seconds).schema.toSchema =
      .ok ⟨[.plain "day" (.scalar .date32) true,
        .plain "marks" (.list (.struct [.plain "at" (.scalar (.timestamp .second none)) true,
          .plain "note" (.scalar .string) true])) true], by decide⟩ :=
    fun day seconds => rfl
  have hconform := fun day seconds => rows_conform (hschema day seconds) (by decide)
  constructor
  · cases hrows : (batch 95026236 (-1)).toRows with
    | error e =>
      obtain ⟨x, hx, -⟩ := ((hconform 95026236 (-1)).1 e).1 hrows
      cases hx
    | ok rows => exact ⟨rows, rfl, ((hconform 95026236 (-1)).2 rows hrows).1⟩
  · exact ((hconform 95026237 Int64.maxValue).1 _).2 ⟨⟨95026237, "date32"⟩, by decide, rfl⟩

end Arrow
end Ingest
