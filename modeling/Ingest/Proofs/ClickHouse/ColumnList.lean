import Ingest.Proofs.ClickHouse.Requests
import Ingest.Proofs.Ddl.ItemList

/-!
# What a CREATE TABLE statement declares

The text of a column is spliced together from the name of its field, the text of its type, a
default and a codec. The statement declares one column for each field, with these texts, exactly if
each of the texts is an item of a list (`declaresColumns_iff`). They are if the members of
records have names like columns and the codecs are items themselves, which the driver does not
check: a member's name may end the type and begin another column.
-/

namespace Ingest
namespace ClickHouse

open Effect Ddl

variable {σ : Type}

/-! ## Names -/

theorem isOrdinary_of_allows {c : Char} (h : Identifier.allows c = true) : isOrdinary c = true := by
  by_contra hspecial
  have hmem : c ∈ ['\'', '(', ')', ','] := by
    simpa only [isOrdinary, decide_eq_true_eq, not_not] using hspecial
  simp only [List.mem_cons, List.not_mem_nil, or_false] at hmem
  rcases hmem with rfl | rfl | rfl | rfl
  · cases h
  · cases h
  · cases h
  · cases h

theorem allows_of_validate {name : String} (h : Identifier.validate name = .ok ()) :
    ∀ c ∈ name.toList, Identifier.allows c = true := by
  unfold Identifier.validate at h
  split at h
  · cases h
  · split at h
    · cases h
    · rename_i hfound
      simpa using hfound

/-- A name of a table or a column is an item. -/
theorem isItem_of_validate {name : String} (h : Identifier.validate name = .ok ()) :
    IsItem name.toList :=
  IsItem.of_isOrdinary fun c hc => isOrdinary_of_allows (allows_of_validate h c hc)

/-! ## Types -/

section Types

variable {zones : Calendar.ZoneDatabase}

theorem isItem_parameterized {name : String} {inner : List Char} (hname : IsItem name.toList)
    (h : Within inner) : IsItem (parameterized name inner) :=
  hname.append (IsItem.parenthesized h)

theorem isItem_digits (n : Nat) : IsItem (Text.digits n) := by
  apply IsItem.of_isOrdinary
  intro c hc
  have hdigit : Text.isDigit c = true := Text.isDigit_of_mem_digits hc
  exact isOrdinary_of_allows (by simp [Identifier.allows, hdigit])

theorem isItem_dateTime64 (precision : Nat) {zone : Option String}
    (h : ∀ z ∈ zone, PlainZone z) : IsItem (TypeName.dateTime64 precision zone).chars := by
  have hname : IsItem "DateTime64".toList := by decide
  cases zone with
  | none =>
    rw [TypeName.chars_dateTime64]
    exact isItem_parameterized hname (isItem_digits precision).within
  | some z =>
    rcases h z rfl with ⟨hquote, hescape⟩
    have hliteral : IsItem ('\'' :: (z.toList ++ ['\''])) := IsItem.quoted hquote hescape
    rw [TypeName.chars_dateTime64_zone]
    exact isItem_parameterized hname ((isItem_digits precision).within.comma hliteral.within)

theorem isItem_plainColumn {name sql : String} {value : Value} {formatter : Formatter}
    (hname : IsItem name.toList) (hsql : IsItem sql.toList) :
    IsItem (plainColumn name sql value formatter).type.chars ∧
      ∀ d ∈ (plainColumn name sql value formatter).default, IsItem d.sql.toList := by
  have hchars : (plainColumn name sql value formatter).type.chars = name.toList := rfl
  refine ⟨?_, ?_⟩
  · rw [hchars]
    exact hname
  · intro d hd
    have hd : some ⟨sql, value⟩ = some d := hd
    cases hd
    exact hsql

theorem isItem_scalarColumn (hz : PlainZones zones) {s : Scalar} {c : ColumnType}
    (h : scalarColumn zones s = .ok c) :
    IsItem c.type.chars ∧ ∀ d ∈ c.default, IsItem d.sql.toList := by
  have hplain := plain_scalarColumn hz h
  cases s with
  | binary => cases h
  | timestamp unit zone =>
    rcases Outcome.bind_eq_ok h with ⟨z, -, h⟩
    cases h
    have hdefault : IsItem "'1970-01-01 00:00:00'".toList := by decide
    rw [TypeName.Plain] at hplain
    refine ⟨isItem_dateTime64 _ hplain.2, ?_⟩
    intro d hd
    have hd : some ⟨_, _⟩ = some d := hd
    cases hd
    exact hdefault
  | _ =>
    cases h
    exact isItem_plainColumn (by decide) (by decide)

/-- Columns inside a nested column. -/
theorem within_columnChars (columns : List (String × TypeName))
    (h : ∀ c ∈ columns, IsItem c.1.toList ∧ IsItem c.2.chars) :
    Within (TypeName.columnChars columns) :=
  match columns with
  | [] => by
    have hnone : TypeName.columnChars [] = [] := rfl
    rw [hnone]
    exact IsItem.within rfl
  | [(name, type)] => by
    have hcolumn := List.forall_mem_singleton.1 h
    rw [TypeName.columnChars_singleton]
    exact (hcolumn.1.spaced hcolumn.2).within
  | (name, type) :: next :: rest => by
    rcases List.forall_mem_cons.1 h with ⟨hcolumn, hrest⟩
    rw [TypeName.columnChars_cons]
    exact (hcolumn.1.spaced hcolumn.2).within.comma (within_columnChars (next :: rest) hrest)

/-- The names of the members of the records in a list type. -/
def memberNames : DataType → List String
  | .scalar _ => []
  | .list element => memberNames element
  | .struct members => members.map (·.name)

theorem isItem_listColumn (hz : PlainZones zones) (element : DataType) {c : ColumnType}
    (h : listColumn zones element = .ok c)
    (hnames : ∀ name ∈ memberNames element, IsItem name.toList) : IsItem c.type.chars :=
  match element with
  | .scalar s => by
    rcases Outcome.map_eq_ok h with ⟨c₀, hc₀, rfl⟩
    rw [arrayColumn, TypeName.chars_array]
    exact isItem_parameterized (by decide) (isItem_scalarColumn hz hc₀).1.within
  | .list element => by
    rw [listColumn] at h
    rcases Outcome.map_eq_ok h with ⟨c₀, hc₀, rfl⟩
    rw [memberNames] at hnames
    rw [arrayColumn, TypeName.chars_array]
    exact isItem_parameterized (by decide) (isItem_listColumn hz element hc₀ hnames).within
  | .struct members => by
    rw [listColumn] at h
    rcases nestedColumn_eq_ok h with ⟨columns, hcolumns, htype, -⟩
    rw [htype, TypeName.chars_nested]
    refine isItem_parameterized (by decide) (within_columnChars _ ?_)
    intro part hpart
    rcases List.mem_map.1 hpart with ⟨column, hcolumn, rfl⟩
    rcases Outcome.exists_of_forall₂ hcolumns hcolumn with ⟨f, hf, hmember⟩
    rcases partColumn_eq_ok hmember with ⟨hname, s, c₀, -, hc₀, hmembertype⟩
    rw [hname, hmembertype]
    exact ⟨hnames f.name (List.mem_map_of_mem hf), (isItem_scalarColumn hz hc₀).1⟩

/-- The text of a type is an item if the names in it are. -/
theorem isItem_toColumn (hz : PlainZones zones) {t : NeutralType} {c : ColumnType}
    (h : toColumn zones t = .ok c) (hnames : ∀ name ∈ memberNames t.type, IsItem name.toList) :
    IsItem c.type.chars ∧ (c.declaresDefault = true → ∀ d ∈ c.default, IsItem d.sql.toList) := by
  rcases t with ⟨type, nullable, metadata⟩
  cases type with
  | struct members => cases h
  | list element =>
    have hdefault : c.declaresDefault = false := (listColumn_eq_ok element h).2
    rw [hdefault]
    exact ⟨isItem_listColumn hz element h hnames, nofun⟩
  | scalar s =>
    rcases Outcome.map_eq_ok h with ⟨c₀, hc₀, rfl⟩
    rcases isItem_scalarColumn hz hc₀ with ⟨htype, hdefault⟩
    have hlow : IsItem (TypeName.lowCardinality c₀.type).chars := by
      rw [TypeName.chars_lowCardinality]
      exact isItem_parameterized (by decide) htype.within
    -- Neither a dictionary nor a declared default changes the text of the default.
    cases metadata.flag Metadata.lowCardinalityKey <;> cases nullable
    · exact ⟨htype, fun _ => hdefault⟩
    · exact ⟨htype, fun _ => hdefault⟩
    · exact ⟨hlow, fun _ => hdefault⟩
    · exact ⟨hlow, fun _ => hdefault⟩

end Types

/-! ## Columns -/

/-- The clause that declares the default of a column. -/
def ColumnType.defaultClause (c : ColumnType) : String :=
  match c.default, c.declaresDefault with
  | some d, true => " DEFAULT " ++ d.sql
  | _, _ => ""

/-- The codec that the metadata of a field ask for. It begins like one, and has no blanks at its
ends. -/
inductive CodecOf (f : Field) : Option String → Prop
  | none : f.metadata.get? "warehouse.clickhouse.codec" = .none → CodecOf f .none
  | clause {text clause : String} : f.metadata.get? "warehouse.clickhouse.codec" = some text →
      Text.TrimsTo text clause → "CODEC(".toList <+: clause.toList → CodecOf f (some clause)

/-- The text that declares the column of a field: the name, the text of the type, a default and a
codec. -/
def DeclaredBy (zones : Calendar.ZoneDatabase) (f : Field) (text : String) : Prop :=
  ∃ column codec, toColumn zones f.neutral = .ok column ∧ CodecOf f codec ∧
    text = f.name ++ " " ++ column.type.text ++ column.defaultClause ++
      (codec.map (" " ++ ·)).getD ""

section Columns

variable {zones : Calendar.ZoneDatabase} {f : Field} {text : String}

theorem definition_eq (c : ColumnType) : c.definition = c.type.text ++ c.defaultClause := by
  rcases c with ⟨type, _ | _, _ | d, formatter⟩ <;>
    simp [ColumnType.definition, ColumnType.defaultClause, String.append_assoc]

theorem codecOf_iff {codec : Option String} : CodecOf f codec ↔ fieldCodec f = .ok codec := by
  have hkey : Metadata.codecKey = "warehouse.clickhouse.codec" := rfl
  unfold fieldCodec
  rw [hkey]
  constructor
  · rintro (hnone | ⟨htext, htrims, hcodec⟩)
    · rw [hnone]
    · rename_i text clause
      have hempty : ¬ clause.isEmpty = true := by
        intro hempty
        rw [String.isEmpty_iff.1 hempty] at hcodec
        exact absurd hcodec (by decide)
      have hbegins : ¬ (!"CODEC(".toList.isPrefixOf clause.toList) = true := by
        simpa using hcodec
      rw [htext]
      simp only [← htrims.eq_trimmed]
      rw [if_neg hempty, if_neg hbegins]
  · intro h
    split at h
    · cases h
      exact .none ‹_›
    · rename_i text htext
      simp only at h
      split_ifs at h with hempty hbegins
      cases h
      exact .clause htext (Text.trimsTo_trimmed text) (by simpa using hbegins)

theorem declaredBy_of_fieldDefinition {definition : String}
    (h : fieldDefinition zones f = .ok definition) :
    DeclaredBy zones f (f.name ++ " " ++ definition) := by
  rcases Outcome.bind_eq_ok h with ⟨column, hcolumn, h⟩
  rcases Outcome.bind_eq_ok h with ⟨codec, hcodec, h⟩
  refine ⟨column, codec, hcolumn, codecOf_iff.2 hcodec, ?_⟩
  cases codec with
  | none =>
    cases h
    simp [definition_eq, String.append_assoc]
  | some clause =>
    cases h
    simp [definition_eq, String.append_assoc]

theorem DeclaredBy.unique {text' : String} (h : DeclaredBy zones f text)
    (h' : DeclaredBy zones f text') : text = text' := by
  rcases h with ⟨column, codec, hcolumn, hcodec, rfl⟩
  rcases h' with ⟨column', codec', hcolumn', hcodec', rfl⟩
  cases hcolumn.symm.trans hcolumn'
  cases (codecOf_iff.1 hcodec).symm.trans (codecOf_iff.1 hcodec')
  rfl

/-- Whether all that is spliced into the text of a column is an item: the names of the members of
its records and the clause of its codec. -/
structure Enclosed (f : Field) : Prop where
  members : ∀ name ∈ memberNames f.type, IsItem name.toList
  codec : ∀ clause, CodecOf f (some clause) → IsItem clause.toList

theorem isItem_defaultClause {c : ColumnType}
    (h : c.declaresDefault = true → ∀ d ∈ c.default, IsItem d.sql.toList) :
    IsItem c.defaultClause.toList := by
  rcases c with ⟨type, _ | _, _ | d, formatter⟩
  · exact rfl
  · exact rfl
  · exact rfl
  · have hkeyword : IsItem " DEFAULT ".toList := by decide
    show IsItem (" DEFAULT " ++ d.sql).toList
    rw [String.toList_append]
    exact hkeyword.append (h rfl d rfl)

/-- The text of a column is an item if what is spliced into it is. -/
theorem isItem_of_declaredBy (hz : PlainZones zones) (hname : Identifier.validate f.name = .ok ())
    (hf : Enclosed f) (h : DeclaredBy zones f text) : IsItem text.toList := by
  rcases h with ⟨column, codec, hcolumn, hcodec, rfl⟩
  rcases isItem_toColumn hz hcolumn hf.members with ⟨htype, hdefault⟩
  have htext : IsItem column.type.text.toList := by
    rw [TypeName.text, String.toList_ofList]
    exact htype
  have hclause : IsItem ((codec.map (" " ++ ·)).getD "").toList := by
    cases codec with
    | none => exact rfl
    | some clause =>
      have hblank : IsItem " ".toList := by decide
      show IsItem (" " ++ clause).toList
      rw [String.toList_append]
      exact hblank.append (hf.codec clause hcodec)
  rw [String.toList_append, String.toList_append, String.toList_append, String.toList_append,
    List.append_assoc f.name.toList]
  exact (((isItem_of_validate hname).spaced htext).append (isItem_defaultClause hdefault)).append
    hclause

end Columns

/-! ## Statements -/

section Statements

variable {setup : Setup} {client : Client σ} {table : String} {schema : Schema}

/-- A CREATE TABLE statement declares the columns of a schema and nothing else. -/
def DeclaresColumns (setup : Setup) (schema : Schema) (statement : String) : Prop :=
  ∃ texts, List.Forall₂ (DeclaredBy setup.zones) schema.fields texts ∧
    columnList? statement = some (onLines texts, Dialect.appended setup.config.suffix)

theorem declaredBy_of_columns {texts : List String}
    (h : (setup.config.dialect setup.zones).columns schema.fields = .ok texts) :
    List.Forall₂ (DeclaredBy setup.zones) schema.fields texts := by
  refine (Outcome.mapM_eq_ok_iff.1 h).imp ?_
  intro f text htext
  rcases Outcome.map_eq_ok htext with ⟨definition, hdefinition, rfl⟩
  exact declaredBy_of_fieldDefinition hdefinition

theorem opening_not_mem_predicate (hvalid : setup.config.validate = .ok ())
    (htable : Identifier.validate table = .ok ()) :
    '(' ∉ ((setup.config.dialect setup.zones).predicate (setup.qualified table)).toList := by
  have hdatabase : Identifier.validate setup.config.database = .ok () := by
    rcases Outcome.bind_eq_ok hvalid with ⟨u, hdatabase, -⟩
    exact hdatabase
  have hallowed : ∀ {name : String}, Identifier.validate name = .ok () → '(' ∉ name.toList := by
    intro name hname hmem
    cases allows_of_validate hname '(' hmem
  have htext : ((setup.config.dialect setup.zones).predicate (setup.qualified table)).toList =
      "TABLE ".toList ++ (setup.config.database.toList ++ ".".toList ++ table.toList) := by
    show ("TABLE " ++ (setup.config.database ++ "." ++ table)).toList = _
    simp [String.toList_append]
  rw [htext]
  simp [hallowed hdatabase, hallowed htable]

/-- The statement for a schema declares its columns exactly if their texts are items. -/
theorem declaresColumns_iff {sql : String} (hvalid : setup.config.validate = .ok ())
    (htable : Identifier.validate table = .ok ()) (hfields : schema.fields ≠ [])
    (h : setup.createStatement table schema = .ok sql) :
    DeclaresColumns setup schema sql ↔
      ∀ f ∈ schema.fields, ∀ text, DeclaredBy setup.zones f text → IsItem text.toList := by
  have hpredicate := opening_not_mem_predicate hvalid htable
  rcases columnList?_createTable_iff h hpredicate hfields with ⟨texts, hcolumns, hread⟩
  have hdeclared : List.Forall₂ (DeclaredBy setup.zones) schema.fields texts :=
    declaredBy_of_columns hcolumns
  constructor
  · rintro ⟨texts', hdeclared', hlist⟩ f hf text htext
    -- A field is declared by one text only.
    have hsame : texts' = texts :=
      List.right_unique_forall₂' (fun _ _ _ h h' => h.unique h') hdeclared' hdeclared
    rcases Outcome.exists_of_forall₂ hdeclared.flip hf with ⟨text', hmem, htext'⟩
    have hitems : ∀ text ∈ texts, IsItem text.toList := hread.1 (hsame ▸ hlist)
    rw [htext.unique htext']
    exact hitems text' hmem
  · intro hitems
    refine ⟨texts, hdeclared, hread.2 ?_⟩
    intro text htext
    rcases Outcome.exists_of_forall₂ hdeclared htext with ⟨f, hf, hdeclares⟩
    exact hitems f hf text hdeclares

/-- The last step of a creation. -/
def createLast (setup : Setup) (client : Client σ) (table sql : String) : Action σ Unit := do
  match ← Action.timed setup "create table" (client.exec sql) with
  | .ok () => Action.forget table
  | .error e =>
    if e.isTableExists then throw (.tableAlreadyExists (setup.qualified table))
    else throw e.toFailure

/-- How a creation ends: each step that fails is the last one. -/
theorem run_createTable (setup : Setup) (client : Client σ) (table : String) (schema : Schema)
    (c : Session σ) :
    (setup.createTable client table schema).run c =
      match Identifier.validate table with
      | .error e => (.error e, c)
      | .ok () =>
        match schema.fields.forM fun f => Identifier.validate f.name with
        | .error e => (.error e, c)
        | .ok () =>
          match setup.createStatement table schema with
          | .error e => (.error e, c)
          | .ok sql => (createLast setup client table sql).run c := by
  unfold Setup.createTable
  rw [run_bind, Effect.run_ofOutcome]
  rcases Identifier.validate table with e | _
  · rfl
  simp only
  rw [run_bind, Effect.run_ofOutcome]
  rcases schema.fields.forM fun f => Identifier.validate f.name with e | _
  · rfl
  simp only
  rw [run_bind, Effect.run_ofOutcome]
  unfold Setup.createStatement
  rcases (setup.config.dialect setup.zones).createTable (setup.qualified table) schema with
    e | sql <;> rfl

theorem requests_createLast (setup : Setup) (client : Client σ) (table sql : String)
    (c : Session (σ × List Request)) :
    ((createLast setup client.noted table sql).run c).2.requests = c.requests ++ [.exec sql] := by
  apply requests_timed_bind
  intro answer rs
  cases answer with
  | ok u => exact fun _ hc => hc
  | error e =>
    simp only
    split
    · exact Keeps.throw _
    · exact Keeps.throw _

/-- Creating a table asks for one statement, if the names are valid and there is a statement. -/
theorem requests_createTable (setup : Setup) (client : Client σ) (table : String)
    (schema : Schema) (c : Session (σ × List Request)) :
    ((setup.createTable client.noted table schema).run c).2.requests = c.requests ∨
      ∃ sql, setup.createStatement table schema = .ok sql ∧
        Identifier.validate table = .ok () ∧
        (∀ f ∈ schema.fields, Identifier.validate f.name = .ok ()) ∧
        ((setup.createTable client.noted table schema).run c).2.requests =
          c.requests ++ [.exec sql] := by
  rw [run_createTable]
  rcases htable : Identifier.validate table with e | _
  · exact .inl rfl
  rcases hnames : schema.fields.forM fun f => Identifier.validate f.name with e | _
  · exact .inl rfl
  rcases hsql : setup.createStatement table schema with e | sql
  · exact .inl rfl
  · have hsent := requests_createLast setup client table sql c
    exact .inr ⟨sql, rfl, rfl, Outcome.forM_eq_ok hnames, hsent⟩

/-- A CREATE TABLE statement that is sent declares exactly the columns of the schema if and only if
the text of each column is an item of a list. It is wherever the names of the members of records and
the codecs are items. -/
theorem createTable_declares_iff (setup : Setup) (client : Client σ) (table : String)
    (schema : Schema) (hvalid : setup.config.validate = .ok ()) (hfields : schema.fields ≠ [])
    (c c' : Session (σ × List Request)) (answer : Outcome Unit)
    (h : (setup.createTable client.noted table schema).run c = (answer, c')) :
    c'.requests = c.requests ∨ ∃ sql, c'.requests = c.requests ++ [.exec sql] ∧
      (DeclaresColumns setup schema sql ↔
        ∀ f ∈ schema.fields, ∀ text, DeclaredBy setup.zones f text → IsItem text.toList) ∧
      (PlainZones setup.zones → (∀ f ∈ schema.fields, Enclosed f) →
        DeclaresColumns setup schema sql) := by
  have hafter : ((setup.createTable client.noted table schema).run c).2 = c' := by rw [h]
  rcases requests_createTable setup client table schema c with
    hnone | ⟨sql, hstatement, htable, hnames, hsent⟩
  · exact .inl (hafter ▸ hnone)
  · have hiff := declaresColumns_iff hvalid htable hfields hstatement
    refine .inr ⟨sql, hafter ▸ hsent, hiff, ?_⟩
    intro hz henclosed
    apply hiff.2
    intro f hf text htext
    exact isItem_of_declaredBy hz (hnames f hf) (henclosed f hf) htext

/-- The schema of records with one member. -/
def tagsOf (member : String) (metadata : Metadata) : Schema :=
  ⟨[⟨"tags", .list (.struct [.plain member (.scalar .string) false]), false, metadata⟩],
    List.nodup_singleton _⟩

/-- A member with the name of a column and a codec with parameters stay inside their column. -/
theorem createTable_declares_tags :
    let setup : Setup := ⟨{ database := "d" }, fun _ => none⟩
    let schema := tagsOf "m" (.ofList [(Metadata.codecKey, "CODEC(Delta, ZSTD(3))")])
    let sql := "CREATE TABLE d.t (\n  tags Nested(m String) CODEC(Delta, ZSTD(3))\n) " ++
      "ENGINE = MergeTree();"
    (setup.createTable described.noted "t" schema).run ⟨⟨([], []), 0⟩, []⟩ =
        (.ok (), ⟨⟨([], [.exec sql]), 0⟩, []⟩) ∧
      DeclaresColumns setup schema sql := by
  intro setup schema sql
  have hrun : (setup.createTable described.noted "t" schema).run ⟨⟨([], []), 0⟩, []⟩ =
      (.ok (), ⟨⟨([], [.exec sql]), 0⟩, []⟩) := by
    have hstatement : setup.createStatement "t" schema = .ok sql := by decide +kernel
    rw [run_createTable, hstatement]
    rfl
  have hvalid : setup.config.validate = .ok () := by decide +kernel
  have henclosed : ∀ f ∈ schema.fields, Enclosed f := by
    intro f hf
    cases List.mem_singleton.1 hf
    refine ⟨by decide, ?_⟩
    intro clause hclause
    have hcodec : IsItem "CODEC(Delta, ZSTD(3))".toList := by decide
    cases codecOf_iff.1 hclause
    exact hcodec
  rcases createTable_declares_iff setup described "t" schema hvalid (List.cons_ne_nil _ _) _ _
    (.ok ()) hrun with hnone | ⟨statement, hsent, -, hdeclares⟩
  · cases hnone
  · cases hsent
    exact ⟨hrun, hdeclares nofun henclosed⟩

/-- The name of a member ends its column and begins another one: the schema has one field, and the
statement declares two columns. -/
theorem extra_column_declared :
    let setup : Setup := ⟨{ database := "d" }, fun _ => none⟩
    let schema := tagsOf "n Int32), extra Nested(m" ∅
    let sql := "CREATE TABLE d.t (\n  tags Nested(n Int32), extra Nested(m String)\n) " ++
      "ENGINE = MergeTree();"
    (setup.createTable described.noted "t" schema).run ⟨⟨([], []), 0⟩, []⟩ =
        (.ok (), ⟨⟨([], [.exec sql]), 0⟩, []⟩) ∧
      columnList? sql = some (["\n  tags Nested(n Int32)", " extra Nested(m String)\n"],
        " ENGINE = MergeTree();") ∧
        ¬ DeclaresColumns setup schema sql := by
  intro setup schema sql
  have hread : columnList? sql = some (["\n  tags Nested(n Int32)", " extra Nested(m String)\n"],
      " ENGINE = MergeTree();") := by decide +kernel
  have hstatement : setup.createStatement "t" schema = .ok sql := by decide +kernel
  refine ⟨?_, hread, ?_⟩
  · rw [run_createTable, hstatement]
    rfl
  rintro ⟨texts, hdeclared, hlist⟩
  -- The one field has one text, and that would stand on one line.
  rcases hdeclared with _ | ⟨-, hrest⟩
  cases hrest
  have hlengths : some 2 = some 1 :=
    congrArg (Option.map fun r : List String × String => r.1.length) (hread.symm.trans hlist)
  cases hlengths

end Statements

end ClickHouse
end Ingest
