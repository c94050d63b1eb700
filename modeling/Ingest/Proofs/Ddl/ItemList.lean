import Ingest.Ddl
import Ingest.Proofs.Outcome
import Ingest.Proofs.Text.Runs

/-!
# Reading a list of columns

What a CREATE statement declares is read off its text: the list of columns begins at the first
parenthesis, commas separate the items that stand outside of further parentheses and of literals,
and the list ends at the parenthesis that closes it. A text can stand as one item of such a list
(`IsItem`) if it closes every parenthesis and literal that it opens, closes no other and has no
comma outside of them. The lines of a statement are read back as the columns that they were written
for exactly if the text of each column is an item (`readItems_columnLines_iff`).
-/

namespace Ingest
namespace Ddl

/-! ## Items -/

/-- Where a reader stands: outside of literals, inside one, or inside one after a backslash. -/
inductive Quoting where
  | outside
  | literal
  | escaped
  deriving DecidableEq

/-- The parentheses that are open inside the list, and whether a literal is. -/
structure Cursor where
  depth : Nat
  quoting : Quoting
  deriving DecidableEq

namespace Cursor

/-- The beginning of an item. -/
def start : Cursor := ⟨0, .outside⟩

/-- Reads a character of an item. A comma or a closing parenthesis that is not inside parentheses
or a literal ends the item. -/
def advance : Cursor → Char → Option Cursor
  | ⟨depth, .escaped⟩, _ => some ⟨depth, .literal⟩
  | ⟨depth, .literal⟩, c =>
    if c = '\\' then some ⟨depth, .escaped⟩
    else if c = '\'' then some ⟨depth, .outside⟩
    else some ⟨depth, .literal⟩
  | ⟨depth, .outside⟩, c =>
    if c = '\'' then some ⟨depth, .literal⟩
    else if c = '(' then some ⟨depth + 1, .outside⟩
    else if c = ')' then if depth = 0 then none else some ⟨depth - 1, .outside⟩
    else if c = ',' then if depth = 0 then none else some ⟨depth, .outside⟩
    else some ⟨depth, .outside⟩

def follow (cursor : Cursor) (cs : List Char) : Option Cursor :=
  cs.foldlM advance cursor

/-- An item ends only where everything inside it is closed. -/
theorem eq_start_of_advance {cursor : Cursor} {c : Char} (h : cursor.advance c = none) :
    cursor = start ∧ (c = ')' ∨ c = ',') := by
  rcases cursor with ⟨depth, _ | _ | _⟩
  · simp only [advance] at h
    split_ifs at h with hquote hopening hclosing hdepth hcomma hdepth
    · exact ⟨by rw [hdepth]; rfl, .inl hclosing⟩
    · exact ⟨by rw [hdepth]; rfl, .inr hcomma⟩
  · simp only [advance] at h
    split_ifs at h
  · cases h

theorem follow_cons (cursor : Cursor) (c : Char) (cs : List Char) :
    cursor.follow (c :: cs) = (cursor.advance c).bind fun next => next.follow cs :=
  List.foldlM_cons

theorem follow_append (cursor : Cursor) (cs ds : List Char) :
    cursor.follow (cs ++ ds) = (cursor.follow cs).bind fun next => next.follow ds :=
  List.foldlM_append

end Cursor

/-- A text that can stand as one item of a list. -/
def IsItem (text : List Char) : Prop :=
  Cursor.start.follow text = some .start

instance (text : List Char) : Decidable (IsItem text) :=
  inferInstanceAs (Decidable (_ = _))

/-- A text that can stand inside parentheses, which keep its commas from ending an item. -/
def Within (text : List Char) : Prop :=
  Cursor.follow ⟨1, .outside⟩ text = some ⟨1, .outside⟩

/-- A character that neither opens nor closes anything nor separates items. -/
def isOrdinary (c : Char) : Bool :=
  c ∉ ['\'', '(', ')', ',']

namespace Cursor

theorem advance_of_isOrdinary {c : Char} (h : isOrdinary c = true) :
    start.advance c = some start := by
  simp only [isOrdinary, List.mem_cons, List.not_mem_nil, or_false, not_or, decide_eq_true_eq] at h
  simp [start, advance, h]

theorem advance_literal {c : Char} (hquote : c ≠ '\'') (hescape : c ≠ '\\') (depth : Nat) :
    advance ⟨depth, .literal⟩ c = some ⟨depth, .literal⟩ := by
  simp [advance, hquote, hescape]

theorem follow_of_advance {cursor : Cursor} {cs : List Char}
    (h : ∀ c ∈ cs, cursor.advance c = some cursor) : cursor.follow cs = some cursor := by
  induction cs with
  | nil => rfl
  | cons c rest ih =>
    rcases List.forall_mem_cons.1 h with ⟨hc, hrest⟩
    rw [follow_cons, hc]
    exact ih hrest

/-- What can be read can also be read inside a parenthesis. -/
theorem advance_deeper {cursor next : Cursor} {c : Char} (h : cursor.advance c = some next) :
    advance ⟨cursor.depth + 1, cursor.quoting⟩ c =
      some ⟨next.depth + 1, next.quoting⟩ := by
  rcases cursor with ⟨depth, _ | _ | _⟩
  · simp only [advance] at h ⊢
    split_ifs at h with hquote hopening hclosing hdepth hcomma hdepth
    · cases h
      simp [hquote]
    · cases h
      simp [hopening]
    · -- A parenthesis that can be closed was opened inside the item.
      have hdeep : depth - 1 + 1 = depth := Nat.succ_pred hdepth
      cases h
      simp [hclosing, hdeep]
    · cases h
      simp [hcomma]
    · cases h
      simp [hquote, hopening, hclosing, hcomma]
  · simp only [advance] at h ⊢
    split_ifs at h with hescape hquote
    · cases h
      simp [hescape]
    · cases h
      simp [hquote]
    · cases h
      simp [hescape, hquote]
  · cases h
    rfl

theorem follow_deeper {cursor next : Cursor} {cs : List Char}
    (h : cursor.follow cs = some next) :
    follow ⟨cursor.depth + 1, cursor.quoting⟩ cs = some ⟨next.depth + 1, next.quoting⟩ := by
  induction cs generalizing cursor with
  | nil =>
    cases h
    rfl
  | cons c rest ih =>
    rw [follow_cons] at h
    rcases Option.bind_eq_some_iff.1 h with ⟨middle, hc, hrest⟩
    rw [follow_cons, advance_deeper hc]
    exact ih hrest

end Cursor

namespace IsItem

theorem of_isOrdinary {cs : List Char} (h : ∀ c ∈ cs, isOrdinary c = true) : IsItem cs :=
  Cursor.follow_of_advance fun c hc => Cursor.advance_of_isOrdinary (h c hc)

theorem append {cs ds : List Char} (hcs : IsItem cs) (hds : IsItem ds) : IsItem (cs ++ ds) := by
  rw [IsItem, Cursor.follow_append, hcs]
  exact hds

/-- Two items with a blank between them. -/
theorem spaced {cs ds : List Char} (hcs : IsItem cs) (hds : IsItem ds) :
    IsItem (cs ++ ' ' :: ds) :=
  hcs.append hds

theorem within {cs : List Char} (h : IsItem cs) : Within cs :=
  Cursor.follow_deeper h

/-- What opens something, stays inside it and closes it again. -/
theorem of_enclosed {opening closing : Char} {inner : List Char} {inside : Cursor}
    (hopening : Cursor.start.advance opening = some inside)
    (hinner : inside.follow inner = some inside)
    (hclosing : inside.advance closing = some .start) :
    IsItem (opening :: (inner ++ [closing])) := by
  have hlast : inside.follow [closing] = some .start := by
    rw [Cursor.follow_cons, hclosing]
    rfl
  rw [IsItem, Cursor.follow_cons, hopening, Option.bind_some, Cursor.follow_append, hinner]
  exact hlast

theorem parenthesized {inner : List Char} (h : Within inner) :
    IsItem ('(' :: (inner ++ [')'])) :=
  of_enclosed rfl h rfl

/-- A literal without escapes. -/
theorem quoted {text : List Char} (hquote : '\'' ∉ text) (hescape : '\\' ∉ text) :
    IsItem ('\'' :: (text ++ ['\''])) := by
  have htext : Cursor.follow ⟨0, .literal⟩ text = some ⟨0, .literal⟩ := by
    apply Cursor.follow_of_advance
    intro c hc
    exact Cursor.advance_literal (ne_of_mem_of_not_mem hc hquote)
      (ne_of_mem_of_not_mem hc hescape) 0
  exact of_enclosed rfl htext rfl

end IsItem

namespace Within

theorem append {cs ds : List Char} (hcs : Within cs) (hds : Within ds) : Within (cs ++ ds) := by
  rw [Within, Cursor.follow_append, hcs]
  exact hds

/-- Inside parentheses a comma is like any other character. -/
theorem comma {cs ds : List Char} (hcs : Within cs) (hds : Within ds) :
    Within (cs ++ ',' :: ' ' :: ds) :=
  hcs.append hds

end Within

/-! ## Reading items -/

/-- Puts a character in front of the first item. -/
def extendFirst (c : Char) : List (List Char) → List (List Char)
  | [] => [[c]]
  | item :: rest => (c :: item) :: rest

/-- Reads the items of a list up to the parenthesis that closes it, and what follows. -/
def readItems : Cursor → List Char → Option (List (List Char) × List Char)
  | _, [] => none
  | cursor, c :: rest =>
    match cursor.advance c with
    | some next => (readItems next rest).map fun r => (extendFirst c r.1, r.2)
    | none =>
      if c = ',' then (readItems .start rest).map fun r => ([] :: r.1, r.2)
      else some ([[]], rest)

/-- What completes an item is put in front of the items that follow. -/
theorem readItems_append {cursor : Cursor} {item : List Char}
    (h : cursor.follow item = some .start) (rest : List Char) :
    readItems cursor (item ++ rest) =
      (readItems .start rest).map fun r => (item.foldr extendFirst r.1, r.2) := by
  induction item generalizing cursor with
  | nil =>
    cases h
    exact Option.map_id'.symm
  | cons c item ih =>
    rw [Cursor.follow_cons] at h
    rcases Option.bind_eq_some_iff.1 h with ⟨next, hnext, hitem⟩
    rw [List.cons_append, readItems, hnext]
    simp only
    rw [ih hitem, Option.map_map]
    rfl

theorem foldr_extendFirst (item : List Char) (others : List (List Char)) :
    item.foldr extendFirst ([] :: others) = item :: others := by
  induction item with
  | nil => rfl
  | cons c item ih => rw [List.foldr_cons, ih, extendFirst]

theorem readItems_closing {item : List Char} (h : IsItem item) (rest : List Char) :
    readItems .start (item ++ ')' :: rest) = some ([item], rest) := by
  have hend : readItems .start (')' :: rest) = some ([[]], rest) := rfl
  rw [readItems_append h, hend, Option.map_some, foldr_extendFirst]

theorem readItems_comma {item rest after : List Char} {items : List (List Char)} (h : IsItem item)
    (hrest : readItems .start rest = some (items, after)) :
    readItems .start (item ++ ',' :: rest) = some (item :: items, after) := by
  have hnext : readItems .start (',' :: rest) = some ([] :: items, after) := by
    show (readItems .start rest).map _ = _
    rw [hrest]
    rfl
  rw [readItems_append h, hnext, Option.map_some, foldr_extendFirst]

/-- What is read are items, the first one from where the reader stands, and nothing is lost of
the text. -/
theorem readItems_eq_some {cursor : Cursor} {cs after : List Char} {items : List (List Char)}
    (h : readItems cursor cs = some (items, after)) :
    ∃ first others, items = first :: others ∧ cursor.follow first = some .start ∧
      (∀ item ∈ others, IsItem item) ∧ cs = [','].intercalate items ++ ')' :: after := by
  induction cs generalizing cursor items after with
  | nil => cases h
  | cons c rest ih =>
    rw [readItems] at h
    cases hnext : cursor.advance c with
    | some next =>
      rw [hnext] at h
      rcases Option.map_eq_some_iff.1 h with ⟨⟨items', after'⟩, hread, heq⟩
      rcases ih hread with ⟨first, others, rfl, hfirst, hothers, rfl⟩
      cases heq
      refine ⟨c :: first, others, rfl, ?_, hothers, ?_⟩
      · rw [Cursor.follow_cons, hnext]
        exact hfirst
      · rw [extendFirst, List.intercalate_cons_cons_left]
        rfl
    | none =>
      rw [hnext] at h
      rcases Cursor.eq_start_of_advance hnext with ⟨rfl, rfl | rfl⟩
      · cases h
        exact ⟨[], [], rfl, rfl, nofun, rfl⟩
      · rcases Option.map_eq_some_iff.1 h with ⟨⟨items', after'⟩, hread, heq⟩
        rcases ih hread with ⟨first, others, rfl, hfirst, hothers, rfl⟩
        cases heq
        refine ⟨[], first :: others, rfl, rfl, ?_, ?_⟩
        · rintro item (_ | ⟨_, hitem⟩)
          · exact hfirst
          · exact hothers item hitem
        · rw [List.intercalate_cons_cons]
          rfl

/-- A text is read as a list in one way: as items between commas up to a closing parenthesis. -/
theorem readItems_eq_some_iff {cs after : List Char} {items : List (List Char)} :
    readItems .start cs = some (items, after) ↔
      items ≠ [] ∧ (∀ item ∈ items, IsItem item) ∧
        cs = [','].intercalate items ++ ')' :: after := by
  constructor
  · intro h
    rcases readItems_eq_some h with ⟨first, others, rfl, hfirst, hothers, htext⟩
    exact ⟨List.cons_ne_nil _ _, List.forall_mem_cons.2 ⟨hfirst, hothers⟩, htext⟩
  · rintro ⟨hne, hitems, rfl⟩
    induction items with
    | nil => exact absurd rfl hne
    | cons item rest ih =>
      rcases List.forall_mem_cons.1 hitems with ⟨hitem, hrest⟩
      cases rest with
      | nil =>
        rw [List.intercalate_singleton]
        exact readItems_closing hitem after
      | cons next rest =>
        have htext : [','].intercalate (item :: next :: rest) ++ ')' :: after =
            item ++ ',' :: ([','].intercalate (next :: rest) ++ ')' :: after) := by
          simp [List.intercalate_cons_cons]
        rw [htext]
        exact readItems_comma hitem (ih (List.cons_ne_nil _ _) hrest)

/-! ## Statements -/

/-- The columns that a CREATE statement declares and what follows their list. -/
def columnList? (statement : String) : Option (List String × String) :=
  match statement.toList.dropWhile (· != '(') with
  | [] => none
  | _ :: list =>
    (readItems .start list).map fun r => (r.1.map String.ofList, String.ofList r.2)

/-- The texts of columns as they stand in a statement, each on a line of its own. -/
def onLines : List String → List String
  | [] => []
  | [text] => ["\n  " ++ text ++ "\n"]
  | text :: next :: rest => ("\n  " ++ text) :: onLines (next :: rest)

theorem onLines_ne_nil {texts : List String} (h : texts ≠ []) : onLines texts ≠ [] := by
  rcases texts with _ | ⟨text, _ | ⟨next, rest⟩⟩
  · exact absurd rfl h
  · exact List.cons_ne_nil _ _
  · exact List.cons_ne_nil _ _

theorem intercalate_onLines {texts : List String} (h : texts ≠ []) :
    [','].intercalate ((onLines texts).map String.toList) =
      '\n' :: (Dialect.columnLines texts).toList := by
  induction texts using onLines.induct with
  | case1 => exact absurd rfl h
  | case2 text => simp [onLines, Dialect.columnLines]
  | case3 text next rest ih =>
    have hrest := ih (List.cons_ne_nil next rest)
    rcases hlines : onLines (next :: rest) with _ | ⟨line, lines⟩
    · exact absurd hlines (onLines_ne_nil (List.cons_ne_nil next rest))
    · rw [hlines, List.map_cons] at hrest
      rw [onLines, hlines, List.map_cons, List.map_cons, List.intercalate_cons_cons, hrest,
        Dialect.columnLines]
      simp

theorem isItem_indented_iff (text : String) :
    IsItem ("\n  " ++ text).toList ↔ IsItem text.toList := by
  rw [String.toList_append]
  rfl

theorem isItem_append_newline_iff (text : String) :
    IsItem (text ++ "\n").toList ↔ IsItem text.toList := by
  -- A line feed leaves the reader at the beginning of an item only if it stood there.
  have hnewline : ∀ cursor : Cursor, cursor.follow ['\n'] = some .start ↔ cursor = .start := by
    rintro ⟨depth, _ | _ | _⟩ <;> simp [Cursor.follow, Cursor.advance, Cursor.start]
  rw [String.toList_append, IsItem, Cursor.follow_append, Option.bind_eq_some_iff]
  constructor
  · rintro ⟨cursor, hcursor, hlast⟩
    rw [(hnewline cursor).1 hlast] at hcursor
    exact hcursor
  · intro h
    exact ⟨.start, h, rfl⟩

/-- Blanks and line feeds around a column make no difference. -/
theorem isItem_onLines_iff {texts : List String} :
    (∀ line ∈ onLines texts, IsItem line.toList) ↔ ∀ text ∈ texts, IsItem text.toList := by
  induction texts using onLines.induct with
  | case1 => simp [onLines]
  | case2 text =>
    rw [onLines, List.forall_mem_singleton, List.forall_mem_singleton, isItem_append_newline_iff,
      isItem_indented_iff]
  | case3 text next rest ih =>
    rw [onLines, List.forall_mem_cons, List.forall_mem_cons, isItem_indented_iff, ih]

/-- The lines of a list are read as the columns that they were written for exactly if the text of
each column is an item. -/
theorem readItems_columnLines_iff {texts : List String} (h : texts ≠ []) (after : List Char) :
    readItems .start ('\n' :: (Dialect.columnLines texts).toList ++ ')' :: after) =
        some ((onLines texts).map String.toList, after) ↔
      ∀ text ∈ texts, IsItem text.toList := by
  rw [readItems_eq_some_iff, ← isItem_onLines_iff, intercalate_onLines h]
  constructor
  · rintro ⟨-, hitems, -⟩ line hline
    exact hitems line.toList (List.mem_map_of_mem hline)
  · intro hlines
    refine ⟨?_, ?_, rfl⟩
    · simpa using onLines_ne_nil h
    · simpa using hlines

/-- The list of a statement begins after its first parenthesis. -/
theorem columnList?_append {before : String} (h : '(' ∉ before.toList) (list : String)
    (lines : List String) (after : String) :
    columnList? (before ++ "(" ++ list) = some (lines, after) ↔
      readItems .start list.toList = some (lines.map String.toList, after.toList) := by
  have hdrop : (before ++ "(" ++ list).toList.dropWhile (· != '(') = '(' :: list.toList := by
    rw [String.toList_append, String.toList_append, List.append_assoc]
    exact Text.dropWhile_run (Text.run_of_not_mem h) (Text.ends_cons (by decide))
  rw [columnList?, hdrop]
  simp only [Option.map_eq_some_iff, Prod.mk.injEq]
  constructor
  · rintro ⟨⟨items, rest⟩, hread, rfl, rfl⟩
    simpa [Function.comp_def] using hread
  · intro hread
    exact ⟨_, hread, by simp [Function.comp_def], String.ofList_toList⟩

/-- A CREATE statement declares the columns of a schema, each by a text of its own, exactly if each
of the texts is an item. -/
theorem columnList?_createTable_iff {d : Dialect} {table : String} {schema : Schema} {sql : String}
    (h : d.createTable table schema = .ok sql) (hpredicate : '(' ∉ (d.predicate table).toList)
    (hfields : schema.fields ≠ []) :
    ∃ texts, d.columns schema.fields = .ok texts ∧
      (columnList? sql = some (onLines texts, Dialect.appended (d.suffix table)) ↔
        ∀ text ∈ texts, IsItem text.toList) := by
  rcases Outcome.bind_eq_ok h with ⟨texts, htexts, h⟩
  cases h
  have hne : texts ≠ [] := by
    rintro rfl
    have hnone := (Outcome.mapM_eq_ok_iff.1 htexts).length_eq
    exact hfields (List.length_eq_zero_iff.1 hnone)
  refine ⟨texts, htexts, ?_⟩
  have hbefore : '(' ∉ ("CREATE " ++ d.predicate table ++ " ").toList := by
    simpa [String.toList_append] using hpredicate
  have hsql : "CREATE " ++ d.predicate table ++ " (\n" ++ Dialect.columnLines texts ++ ")" ++
      Dialect.appended (d.suffix table) =
        "CREATE " ++ d.predicate table ++ " " ++ "(" ++
          ("\n" ++ Dialect.columnLines texts ++ ")" ++ Dialect.appended (d.suffix table)) := by
    apply String.toList_inj.1
    simp [String.toList_append]
  have hlist : ("\n" ++ Dialect.columnLines texts ++ ")" ++
      Dialect.appended (d.suffix table)).toList =
        '\n' :: (Dialect.columnLines texts).toList ++
          ')' :: (Dialect.appended (d.suffix table)).toList := by
    simp [String.toList_append]
  rw [hsql, columnList?_append hbefore, hlist, readItems_columnLines_iff hne]

end Ddl
end Ingest
