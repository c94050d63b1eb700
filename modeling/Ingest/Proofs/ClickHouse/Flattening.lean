import Ingest.Proofs.ClickHouse.Folding
import Ingest.Proofs.ClickHouse.Reprinting

/-!
# Folding undoes flattening

A server that flattens nested columns describes one array for each field of a nested column, under
the name of the column, a full stop and the name of the field. The first of these arrays stands
where the column would, and the later ones anywhere behind it, in the order of the fields. Folding
gives back the columns there were before (`foldColumns_pieces`), and what is folded holds no parts,
so that it is not folded further (`foldColumns_foldColumns`).
-/

namespace Ingest
namespace ClickHouse

/-! ## Flattening -/

/-- A field of a nested column, with the default kind of the array that stands for it. -/
structure NestedField where
  name : String
  type : TypeName
  defaultKind : String := ""

namespace NestedField

/-- The array that stands for a field of a nested column. -/
def column (parent : String) (f : NestedField) : ColumnInfo :=
  ⟨parent ++ "." ++ f.name, (TypeName.array f.type).text, f.defaultKind⟩

def part (parent : String) (f : NestedField) : FlatPart :=
  ⟨parent, f.name, f.type⟩

end NestedField

/-- A column of a flattened table. -/
inductive Piece where
  /-- A column that is left as it is. -/
  | whole (c : ColumnInfo)
  /-- The array for the first field of a nested column. -/
  | first (parent : String) (f : NestedField)
  /-- The array for another field of a nested column. -/
  | later (parent : String) (f : NestedField)

namespace Piece

def column : Piece → ColumnInfo
  | whole c => c
  | first parent f => f.column parent
  | later parent f => f.column parent

def isLater : Piece → Bool
  | later _ _ => true
  | _ => false

/-- The part of a nested column that a piece stands for. -/
def part? : Piece → Option FlatPart
  | whole _ => none
  | first parent f => some (f.part parent)
  | later parent f => some (f.part parent)

def belongsTo (parent : String) (p : Piece) : Bool :=
  p.part?.any (·.parent == parent)

@[simp] theorem isLater_whole (c : ColumnInfo) : (whole c).isLater = false := rfl

@[simp] theorem isLater_first (parent : String) (f : NestedField) :
    (first parent f).isLater = false := rfl

@[simp] theorem isLater_later (parent : String) (f : NestedField) :
    (later parent f).isLater = true := rfl

@[simp] theorem belongsTo_whole (parent : String) (c : ColumnInfo) :
    (whole c).belongsTo parent = false := rfl

@[simp] theorem belongsTo_first (parent parent' : String) (f : NestedField) :
    (first parent' f).belongsTo parent = (parent' == parent) := rfl

@[simp] theorem belongsTo_later (parent parent' : String) (f : NestedField) :
    (later parent' f).belongsTo parent = (parent' == parent) := rfl

end Piece

/-- A column of a table before it is flattened. -/
inductive Source where
  /-- A column that flattening leaves as it is. -/
  | whole (c : ColumnInfo)
  /-- A nested column with its fields. -/
  | nested (name : String) (first : NestedField) (others : List NestedField)

namespace Source

def column : Source → ColumnInfo
  | whole c => c
  | nested name first others =>
    ⟨name, (TypeName.nested ((first :: others).map fun f => (f.name, f.type))).text, ""⟩

/-- What flattening puts in the place of a column. -/
def pieces : Source → List Piece
  | whole c => [.whole c]
  | nested name first others => .first name first :: others.map (.later name)

/-- A column that is left as it is cannot be taken for a part, and a nested column has a name
without full stops and fields whose types are read from their text. -/
def Sound : Source → Prop
  | whole c => ¬ ('.' ∈ c.name.toList ∧ ∃ element, TypeName.parse c.type = .ok (.array element))
  | nested name first others =>
    '.' ∉ name.toList ∧ ∀ f ∈ first :: others, TypeName.parse f.type.text = .ok f.type

end Source

/-- The pieces of a flattened table in another order: only later parts have moved, and they stand
in the order of the fields behind the first part still. -/
structure Rearranged (flat pieces : List Piece) : Prop where
  inPlace : pieces.filter (!·.isLater) = flat.filter (!·.isLater)
  inOrder : ∀ parent, pieces.filter (·.belongsTo parent) = flat.filter (·.belongsTo parent)

/-! ## Parts are found -/

theorem splitAtStop_joined {parent : String} (h : '.' ∉ parent.toList) (name : String) :
    splitAtStop (parent ++ "." ++ name) = some (parent, name) := by
  have hrun := Text.run_of_not_mem h
  have hstop : Text.Ends (· != '.') ('.' :: name.toList) := Text.ends_cons (by decide)
  have hlist : (parent ++ "." ++ name).toList = parent.toList ++ '.' :: name.toList := by simp
  simp only [splitAtStop, hlist, Text.dropWhile_run hrun hstop, Text.takeWhile_run hrun hstop,
    String.ofList_toList]

/-- An array of a type is read from its text if the type is. -/
theorem TypeName.parse_text_array {t : TypeName} (h : parse t.text = .ok t) :
    parse (array t).text = .ok (array t) := by
  rcases derives_of_parse h with ⟨ts, hs, hderives⟩
  have hproper : ∀ token ∈ applied "Array" ts, token.Proper :=
    proper_applied_iff.2 ⟨by decide, hs.proper⟩
  have hlegible : (array t).Legible := by
    rw [Legible]
    exact (parse_text_iff hderives hs.proper).1 h
  exact (parse_text_iff (.array hderives) hproper).2 hlegible

theorem NestedField.flatPart?_column {parent : String} (hparent : '.' ∉ parent.toList)
    {f : NestedField} (hf : TypeName.parse f.type.text = .ok f.type) :
    (f.column parent).flatPart? = some (f.part parent) := by
  simp [ColumnInfo.flatPart?, column, part, splitAtStop_joined hparent,
    TypeName.parse_text_array hf]

theorem Source.Sound.flatPart?_column {s : Source} (h : s.Sound) :
    ∀ p ∈ s.pieces, p.column.flatPart? = p.part? := by
  intro p hp
  cases s with
  | whole c =>
    rw [List.mem_singleton.1 hp]
    exact flatPart?_eq_none_iff.2 h
  | nested name first others =>
    rcases h with ⟨hname, hfields⟩
    rcases List.mem_cons.1 hp with rfl | hp
    · exact NestedField.flatPart?_column hname (hfields first List.mem_cons_self)
    · rcases List.mem_map.1 hp with ⟨f, hf, rfl⟩
      exact NestedField.flatPart?_column hname (hfields f (List.mem_cons_of_mem _ hf))

/-- The fields of a parent are collected in the order of its pieces. -/
theorem partsOf_pieces {pieces : List Piece} (h : ∀ p ∈ pieces, p.column.flatPart? = p.part?)
    (parent : String) :
    partsOf parent (pieces.map Piece.column) =
      (pieces.filter (·.belongsTo parent)).filterMap fun p => p.part?.map fun q =>
        (q.name, q.type) := by
  induction pieces with
  | nil => rfl
  | cons p rest ih =>
    have hrest := ih fun q hq => h q (List.mem_cons_of_mem p hq)
    unfold partsOf at hrest ⊢
    rw [List.map_cons, List.filterMap_cons, h p List.mem_cons_self, hrest, List.filter_cons]
    cases hpart : p.part? with
    | none => simp [Piece.belongsTo, hpart]
    | some q => by_cases hq : q.parent = parent <;> simp [Piece.belongsTo, hpart, hq]

/-! ## Pieces in turn -/

/-- The parts that are still to come: of a parent that is done only later ones, and of any other
the first before them. -/
structure InTurn (done : List String) (pieces : List Piece) : Prop where
  passed : ∀ parent ∈ done, ∀ p ∈ pieces, p.belongsTo parent → p.isLater
  ahead : ∀ parent ∉ done, ∀ p rest, pieces.filter (·.belongsTo parent) = p :: rest →
    p.isLater = false ∧ ∀ q ∈ rest, q.isLater

namespace InTurn

variable {done : List String} {rest : List Piece} {parent : String} {f : NestedField}

/-- What holds of a parent is not changed by pieces that do not belong to it. -/
theorem of_cons {p : Piece} (h : InTurn done (p :: rest))
    (hp : ∀ parent ∉ done, p.belongsTo parent = false) : InTurn done rest where
  passed parent hdone q hq := h.passed parent hdone q (List.mem_cons_of_mem p hq)
  ahead parent hdone q others hfilter := by
    apply h.ahead parent hdone q others
    rw [List.filter_cons_of_neg (by simp [hp parent hdone]), hfilter]

theorem whole {c : ColumnInfo} (h : InTurn done (.whole c :: rest)) : InTurn done rest :=
  h.of_cons fun _ _ => rfl

theorem mem_of_later (h : InTurn done (.later parent f :: rest)) : parent ∈ done := by
  refine Classical.byContradiction fun hdone => ?_
  have hfront := h.ahead parent hdone _ _ (List.filter_cons_of_pos (by simp))
  cases hfront.1

theorem later (h : InTurn done (.later parent f :: rest)) : InTurn done rest := by
  apply h.of_cons
  intro other hother
  have hne : parent ≠ other := by
    rintro rfl
    exact hother h.mem_of_later
  simpa using hne

theorem not_mem_of_first (h : InTurn done (.first parent f :: rest)) : parent ∉ done := by
  intro hdone
  have hlater := h.passed parent hdone (.first parent f) List.mem_cons_self (by simp)
  cases hlater

/-- Once the first part has passed, the later ones of its parent are to come. -/
theorem first (h : InTurn done (.first parent f :: rest)) : InTurn (parent :: done) rest where
  passed other hother q hq hbelongs := by
    rcases List.mem_cons.1 hother with rfl | hother
    · have hfront := h.ahead other h.not_mem_of_first _ _ (List.filter_cons_of_pos (by simp))
      exact hfront.2 q (List.mem_filter.2 ⟨hq, hbelongs⟩)
    · exact h.passed other hother q (List.mem_cons_of_mem _ hq) hbelongs
  ahead other hother q others hfilter := by
    rcases not_or.1 (mt List.mem_cons.2 hother) with ⟨hne, hdone⟩
    apply h.ahead other hdone q others
    rw [List.filter_cons_of_neg (by simpa using Ne.symm hne), hfilter]

end InTurn

/-- The column that is there for a piece after folding. -/
def Piece.folded (all : List ColumnInfo) : Piece → ColumnInfo
  | whole c => c
  | first parent _ => nestedInfo parent all
  | later parent _ => nestedInfo parent all

/-- Folding passes over later parts, and puts the nested column in the place of the first one. -/
theorem foldRest_pieces (all : List ColumnInfo) {done : List String} {pieces : List Piece}
    (h : InTurn done pieces) (hflat : ∀ p ∈ pieces, p.column.flatPart? = p.part?) :
    foldRest all done (pieces.map Piece.column) =
      (pieces.filter (!·.isLater)).map (Piece.folded all) := by
  induction pieces generalizing done with
  | nil => rfl
  | cons p rest ih =>
    have hrest : ∀ q ∈ rest, q.column.flatPart? = q.part? :=
      fun q hq => hflat q (List.mem_cons_of_mem p hq)
    rw [List.map_cons, foldRest, hflat p List.mem_cons_self]
    cases p with
    | whole c => simp [Piece.part?, Piece.column, Piece.folded, ih h.whole hrest]
    | first parent f =>
      simp [Piece.part?, NestedField.part, Piece.folded, h.not_mem_of_first, ih h.first hrest]
    | later parent f =>
      simp [Piece.part?, NestedField.part, h.mem_of_later, ih h.later hrest]

/-! ## The pieces of one parent -/

theorem Source.filter_belongsTo_of_ne {s : Source} {parent : String}
    (h : s.column.name ≠ parent) : s.pieces.filter (·.belongsTo parent) = [] := by
  apply List.filter_eq_nil_iff.2
  intro p hp
  cases s with
  | whole c => simp [List.mem_singleton.1 hp]
  | nested name first others =>
    have hne : name ≠ parent := h
    rcases List.mem_cons.1 hp with rfl | hp
    · simpa using hne
    · rcases List.mem_map.1 hp with ⟨f, -, rfl⟩
      simpa using hne

theorem Source.filter_belongsTo_nested (name : String) (first : NestedField)
    (others : List NestedField) :
    (nested name first others).pieces.filter (·.belongsTo name) =
      (nested name first others).pieces := by
  simp [pieces, List.filter_map, Function.comp_def]

/-- Among columns with distinct names, the pieces of a parent are those of one column. -/
theorem filter_belongsTo_flatMap {sources : List Source}
    (hnd : (sources.map (·.column.name)).Nodup) {s : Source} (hs : s ∈ sources) :
    (sources.flatMap Source.pieces).filter (·.belongsTo s.column.name) =
      s.pieces.filter (·.belongsTo s.column.name) := by
  induction sources with
  | nil => cases hs
  | cons t rest ih =>
    rcases List.nodup_cons.1 hnd with ⟨ht, hrest⟩
    rw [List.flatMap_cons, List.filter_append]
    rcases List.mem_cons.1 hs with rfl | hs
    · have hnone : (rest.flatMap Source.pieces).filter (·.belongsTo s.column.name) = [] := by
        rw [List.filter_flatMap]
        apply List.flatMap_eq_nil_iff.2
        intro t hmem
        apply Source.filter_belongsTo_of_ne
        intro heq
        exact ht (List.mem_map.2 ⟨t, hmem, heq⟩)
      rw [hnone, List.append_nil]
    · have hne : t.column.name ≠ s.column.name := by
        intro heq
        exact ht (List.mem_map.2 ⟨s, hs, heq.symm⟩)
      rw [Source.filter_belongsTo_of_ne hne, List.nil_append, ih hrest hs]

namespace Rearranged

variable {sources : List Source} {pieces : List Piece}

theorem refl (pieces : List Piece) : Rearranged pieces pieces :=
  ⟨rfl, fun _ => rfl⟩

theorem mem {flat : List Piece} (h : Rearranged flat pieces) {p : Piece} (hp : p ∈ pieces) :
    p ∈ flat := by
  cases p with
  | later parent f =>
    have hmem : .later parent f ∈ pieces.filter (·.belongsTo parent) :=
      List.mem_filter.2 ⟨hp, by simp⟩
    rw [h.inOrder] at hmem
    exact (List.mem_filter.1 hmem).1
  | whole c =>
    have hmem : .whole c ∈ pieces.filter (!·.isLater) := List.mem_filter.2 ⟨hp, rfl⟩
    rw [h.inPlace] at hmem
    exact (List.mem_filter.1 hmem).1
  | first parent f =>
    have hmem : .first parent f ∈ pieces.filter (!·.isLater) := List.mem_filter.2 ⟨hp, rfl⟩
    rw [h.inPlace] at hmem
    exact (List.mem_filter.1 hmem).1

/-- In whatever order, the first part of a parent comes before the later ones. -/
theorem inTurn (h : Rearranged (sources.flatMap Source.pieces) pieces)
    (hnd : (sources.map (·.column.name)).Nodup) : InTurn [] pieces where
  passed := nofun
  ahead parent _ p rest hfilter := by
    rw [h.inOrder] at hfilter
    have hp : p ∈ (sources.flatMap Source.pieces).filter (·.belongsTo parent) := by simp [hfilter]
    rcases List.mem_filter.1 hp with ⟨hp, hbelongs⟩
    rcases List.mem_flatMap.1 hp with ⟨s, hs, hp⟩
    have hname : s.column.name = parent := by
      refine Classical.byContradiction fun hne => ?_
      have hnone := List.mem_filter.2 ⟨hp, hbelongs⟩
      rw [Source.filter_belongsTo_of_ne hne] at hnone
      cases hnone
    subst hname
    rw [filter_belongsTo_flatMap hnd hs] at hfilter
    cases s with
    | whole c => cases hfilter
    | nested name first others =>
      have hpieces := (Source.filter_belongsTo_nested name first others).symm.trans hfilter
      rcases List.cons.inj hpieces with ⟨rfl, rfl⟩
      simp

end Rearranged

/-! ## Folding -/

/-- The pieces of flattened columns fold to the columns, wherever the later parts stand. -/
theorem foldColumns_pieces {sources : List Source} {pieces : List Piece}
    (hnd : (sources.map (·.column.name)).Nodup) (hsound : ∀ s ∈ sources, s.Sound)
    (h : Rearranged (sources.flatMap Source.pieces) pieces) :
    foldColumns (pieces.map Piece.column) = sources.map Source.column := by
  have hflat : ∀ p ∈ pieces, p.column.flatPart? = p.part? := by
    intro p hp
    rcases List.mem_flatMap.1 (h.mem hp) with ⟨s, hs, hp⟩
    exact (hsound s hs).flatPart?_column p hp
  have hone : ∀ s ∈ sources,
      (s.pieces.filter (!·.isLater)).map (Piece.folded (pieces.map Piece.column)) =
        [s.column] := by
    intro s hs
    cases s with
    | whole c => rfl
    | nested name first others =>
      have hparts : partsOf name (pieces.map Piece.column) =
          (first :: others).map fun f => (f.name, f.type) := by
        rw [partsOf_pieces hflat, h.inOrder]
        have honly := filter_belongsTo_flatMap hnd hs
        rw [Source.column] at honly
        rw [honly, Source.filter_belongsTo_nested]
        simp [Source.pieces, Piece.part?, NestedField.part]
      simp [Source.pieces, Source.column, Piece.folded, nestedInfo, hparts, List.filter_map,
        Function.comp_def]
  calc
    foldColumns (pieces.map Piece.column)
        = foldRest (pieces.map Piece.column) [] (pieces.map Piece.column) :=
      foldColumns_eq_foldRest _
    _ = (pieces.filter (!·.isLater)).map (Piece.folded (pieces.map Piece.column)) :=
      foldRest_pieces _ (h.inTurn hnd) hflat
    _ = sources.flatMap fun s =>
          (s.pieces.filter (!·.isLater)).map (Piece.folded (pieces.map Piece.column)) := by
      rw [h.inPlace, List.filter_flatMap, List.map_flatMap]
    _ = sources.flatMap fun s => [s.column] := List.flatMap_congr hone
    _ = sources.map Source.column := List.map_eq_flatMap.symm

/-- What is folded holds no parts. -/
theorem foldColumns_foldColumns (columns : List ColumnInfo) :
    foldColumns (foldColumns columns) = foldColumns columns := by
  apply foldColumns_of_whole
  intro c hc
  rcases mem_foldColumns hc with ⟨-, hwhole⟩ | hstop
  · exact hwhole
  · exact flatPart?_eq_none_iff.2 fun h => hstop h.1

/-- Folding gives back the columns of a table from those that a server describes when it flattens
them, and what it gives it leaves as it is. -/
theorem fold_undoes_flattening :
    (∀ (sources : List Source) (pieces : List Piece), (sources.map (·.column.name)).Nodup →
        (∀ s ∈ sources, s.Sound) → Rearranged (sources.flatMap Source.pieces) pieces →
          foldColumns (pieces.map Piece.column) = sources.map Source.column) ∧
      ∀ columns, foldColumns (foldColumns columns) = foldColumns columns :=
  ⟨fun _ _ hnd hsound h => foldColumns_pieces hnd hsound h, foldColumns_foldColumns⟩

/-- The later parts of two nested columns stand behind a column that is no part. -/
theorem fold_undoes_flattening_interleaved :
    let a : NestedField := ⟨"a", .named "Int32", ""⟩
    let b : NestedField := ⟨"b", .nullable (.named "String"), ""⟩
    let c : NestedField := ⟨"c", .array (.named "Int64"), "DEFAULT"⟩
    let id : ColumnInfo := ⟨"row.id", "Int64", ""⟩
    let sources : List Source := [.nested "p" a [b], .nested "q" c [a, b], .whole id]
    let pieces : List Piece :=
      [.first "p" a, .first "q" c, .whole id, .later "q" a, .later "p" b, .later "q" b]
    (sources.map (·.column.name)).Nodup ∧ (∀ s ∈ sources, s.Sound) ∧
      Rearranged (sources.flatMap Source.pieces) pieces ∧
      foldColumns (pieces.map Piece.column) =
        [⟨"p", "Nested(a Int32, b Nullable(String))", ""⟩,
          ⟨"q", "Nested(c Array(Int64), a Int32, b Nullable(String))", ""⟩, id] := by
  intro a b c id sources pieces
  have hnd : (sources.map (·.column.name)).Nodup := by decide
  have hsound : ∀ s ∈ sources, s.Sound := by
    have hread : ∀ f ∈ [a, b, c], TypeName.parse f.type.text = .ok f.type := by decide +kernel
    have hid : ∀ element, TypeName.parse id.type ≠ .ok (.array element) := by
      have hint : TypeName.parse id.type = .ok (.named "Int64") := by decide +kernel
      simp [hint]
    simp_all [sources, Source.Sound]
  have hmoved : Rearranged (sources.flatMap Source.pieces) pieces := by
    refine ⟨rfl, fun parent => ?_⟩
    by_cases hp : "p" = parent
    · subst hp
      rfl
    · by_cases hq : "q" = parent
      · subst hq
        rfl
      · simp [sources, pieces, Source.pieces, hp, hq]
  refine ⟨hnd, hsound, hmoved, ?_⟩
  rw [fold_undoes_flattening.1 sources pieces hnd hsound hmoved]
  decide +kernel

end ClickHouse
end Ingest
