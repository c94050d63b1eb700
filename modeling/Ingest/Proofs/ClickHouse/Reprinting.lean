import Ingest.Proofs.ClickHouse.Grammar
import Ingest.Proofs.ClickHouse.PrintedTokens

/-!
# Types that are printed and read again

A type that was read is read again from its own text exactly if its text is legible: nothing but
quotes is escaped in literals, and no quote stands in a zone (`parse_text_iff`). The text of a type
that is kept has the tokens that were read exactly if, besides, no words or numbers stood side by
side (`reprint_faithful_iff`).
-/

namespace Ingest
namespace ClickHouse

/-! ## Kept tokens -/

/-- Balanced tokens with the text of others, which are found in it. -/
structure Regrouped (ts ts' : List Token) : Prop where
  printed_eq : printed ts' = printed ts
  balanced : Balanced ts'
  proper : ∀ t ∈ ts', t.Proper
  unescaped : Unescaped ts'
  separate : Separate ts'

theorem unescaped_append {ts ts' : List Token} :
    Unescaped (ts ++ ts') ↔ Unescaped ts ∧ Unescaped ts' := by
  simp only [Unescaped, List.mem_append, or_imp, forall_and]

theorem unescaped_cons_of_ne {t : Token} {ts : List Token} (ht : ∀ text, t ≠ .quoted text) :
    Unescaped (t :: ts) ↔ Unescaped ts := by
  rw [unescaped_cons, and_iff_right]
  intro text h
  exact absurd h (ht text)

theorem separate_mark {t : Token} {ts ts' : List Token} (ht : t.letters? = none) :
    Separate (ts ++ t :: ts') ↔ Separate ts ∧ Separate ts' := by
  rw [Separate, List.isChain_append, ← Separate, ← Separate, separate_cons]
  simp [ht]

theorem Token.letters?_ofRun (run : List Char) : (ofRun run).letters? = some run := by
  unfold ofRun
  split <;> simp [letters?]

theorem Token.proper_ofRun {run : List Char} (hne : run ≠ []) (hrun : run.all isWordChar = true) :
    (ofRun run).Proper := by
  have hend : Breaks [] := nofun
  exact (Splits.nil.run hne hrun hend).proper _ List.mem_cons_self

theorem Balanced.tail {t : Token} {ts : List Token} (ht : t ≠ .opening) (h : Balanced (t :: ts)) :
    Balanced ts := by
  cases h with
  | token _ _ h => exact h
  | group _ _ => exact absurd rfl ht

namespace Regrouped

variable {t t' : Token} {run run' : List Char} {ts ts' : List Token}

theorem nil : Regrouped [] [] := ⟨rfl, .nil, nofun, nofun, .nil⟩

theorem cons (h : Regrouped ts ts') (hopening : t ≠ .opening) (hclosing : t ≠ .closing)
    (hproper : t.Proper) (hescape : ∀ text, t = .quoted text → '\\' ∉ text.toList)
    (hseparate : t.letters? = none ∨ ∀ t' ∈ ts'.head?, t'.letters? = none) :
    Regrouped (t :: ts) (t :: ts') where
  printed_eq := by rw [printed_cons, printed_cons, h.printed_eq]
  balanced := .token hopening hclosing h.balanced
  proper := List.forall_mem_cons.2 ⟨hproper, h.proper⟩
  unescaped := unescaped_cons.2 ⟨hescape, h.unescaped⟩
  separate := separate_cons.2 ⟨hseparate, h.separate⟩

/-- A word or number grows together with the one that follows it. -/
theorem grow (h : Regrouped ts (t' :: ts')) (hproper : t.Proper) (ht : t.letters? = some run)
    (ht' : t'.letters? = some run') : Regrouped (t :: ts) (.ofRun (run ++ run') :: ts') := by
  have hletters := Token.letters?_ofRun (run ++ run')
  -- What grew together is a run, and so is no other token.
  have hmark : ∀ mark : Token, mark.letters? = none → Token.ofRun (run ++ run') ≠ mark := by
    rintro _ hnone rfl
    cases hnone.symm.trans hletters
  have hopening : t' ≠ .opening := by
    rintro rfl
    cases ht'
  rcases hproper.run ht with ⟨hne, hrun⟩
  rcases (h.proper t' List.mem_cons_self).run ht' with ⟨-, hrun'⟩
  have hseparate := separate_cons.1 h.separate
  rw [ht'] at hseparate
  exact {
    printed_eq := by
      rw [printed_cons, printed_cons, printed_of_letters hletters, printed_of_letters ht,
        ← h.printed_eq, printed_cons, printed_of_letters ht', List.append_assoc]
    balanced := .token (hmark _ rfl) (hmark _ rfl) (h.balanced.tail hopening)
    proper := by
      refine List.forall_mem_cons.2 ⟨Token.proper_ofRun ?_ ?_, (List.forall_mem_cons.1 h.proper).2⟩
      · simp [hne]
      · rw [List.all_append, hrun, hrun', Bool.and_self]
    unescaped := (unescaped_cons_of_ne fun _ => hmark _ rfl).2 (unescaped_cons.1 h.unescaped).2
    separate := separate_cons.2 ⟨.inr (hseparate.1.resolve_left nofun), hseparate.2⟩ }

theorem group {inner inner' : List Token} (hinner : Regrouped inner inner')
    (h : Regrouped ts ts') :
    Regrouped (.opening :: (inner ++ .closing :: ts))
      (.opening :: (inner' ++ .closing :: ts')) where
  printed_eq := by simp only [printed_cons, printed_append, hinner.printed_eq, h.printed_eq]
  balanced := .group hinner.balanced h.balanced
  proper := by
    simp only [List.forall_mem_cons, List.forall_mem_append]
    exact ⟨trivial, hinner.proper, trivial, h.proper⟩
  unescaped := by
    rw [unescaped_cons, unescaped_append, unescaped_cons]
    exact ⟨nofun, hinner.unescaped, nofun, h.unescaped⟩
  separate := by
    rw [separate_cons, separate_mark rfl]
    exact ⟨.inl rfl, hinner.separate, h.separate⟩

end Regrouped

/-- Words and numbers that stand side by side are found as one. -/
theorem Balanced.exists_regrouped {ts : List Token} (h : Balanced ts) (hproper : ∀ t ∈ ts, t.Proper)
    (hescape : Unescaped ts) : ∃ ts', Regrouped ts ts' := by
  induction h with
  | nil => exact ⟨[], .nil⟩
  | token hopening hclosing _ ih =>
    rename_i t ts _
    rw [List.forall_mem_cons] at hproper
    rw [unescaped_cons] at hescape
    rcases ih hproper.2 hescape.2 with ⟨ts', h⟩
    cases ht : t.letters? with
    | none => exact ⟨t :: ts', h.cons hopening hclosing hproper.1 hescape.1 (.inl ht)⟩
    | some run =>
      cases ts' with
      | nil => exact ⟨[t], h.cons hopening hclosing hproper.1 hescape.1 (.inr nofun)⟩
      | cons t' ts' =>
        cases ht' : t'.letters? with
        | none =>
          have hnone : ∀ t'' ∈ (t' :: ts').head?, t''.letters? = none := by simpa using ht'
          exact ⟨t :: t' :: ts', h.cons hopening hclosing hproper.1 hescape.1 (.inr hnone)⟩
        | some run' => exact ⟨_, h.grow hproper.1 ht ht'⟩
  | group _ _ ihinner ih =>
    simp only [List.forall_mem_cons, List.forall_mem_append] at hproper
    rw [unescaped_cons, unescaped_append, unescaped_cons] at hescape
    rcases ihinner hproper.2.1 hescape.2.1 with ⟨inner', hinner⟩
    rcases ih hproper.2.2.2 hescape.2.2.2 with ⟨ts', h⟩
    exact ⟨_, hinner.group h⟩

/-! ## Legible types -/

/-- A name with parameters is printed as it is written. -/
theorem printed_applied (name : String) (inner : List Token) :
    printed (applied name inner) = parameterized name (printed inner) := by
  rw [applied, printed_cons, printed_cons, printed_append]
  rfl

theorem toList_otherText (name : String) (inner : List Token) :
    (TypeName.otherText name inner).toList = parameterized name (printed inner) := by
  rw [TypeName.otherText, String.toList_ofList, List.append_assoc]
  rfl

theorem otherText_congr (name : String) {inner inner' : List Token}
    (h : printed inner' = printed inner) :
    TypeName.otherText name inner' = TypeName.otherText name inner := by
  rw [← String.toList_inj, toList_otherText, toList_otherText, h]

theorem unescaped_word {name : String} {ts : List Token} :
    Unescaped (.word name :: ts) ↔ Unescaped ts :=
  unescaped_cons_of_ne fun _ => nofun

theorem unescaped_comma {ts : List Token} : Unescaped (.comma :: ts) ↔ Unescaped ts :=
  unescaped_cons_of_ne fun _ => nofun

theorem unescaped_applied {name : String} {inner : List Token} :
    Unescaped (applied name inner) ↔ Unescaped inner := by
  simp [applied, Unescaped]

theorem proper_applied_iff {name : String} {inner : List Token} :
    (∀ t ∈ applied name inner, t.Proper) ↔ isWord name = true ∧ ∀ t ∈ inner, t.Proper := by
  simp [applied, or_imp, forall_and, Token.Proper]

mutual

/-- The zones of the timestamps in a type. -/
def TypeName.zones : TypeName → List String
  | .dateTime64 _ zone => zone.toList
  | .array element => element.zones
  | .nullable inner => inner.zones
  | .lowCardinality inner => inner.zones
  | .nested columns => columnZones columns
  | .named _ => []
  | .other _ => []

def columnZones : List (String × TypeName) → List String
  | [] => []
  | (_, type) :: rest => type.zones ++ columnZones rest

end

mutual

/-- The text of a type has nothing but quotes escaped in literals, and no quote in a zone. -/
def TypeName.Legible : TypeName → Prop
  | .named _ => True
  | .dateTime64 _ zone => ∀ z ∈ zone, PlainZone z
  | .array element => element.Legible
  | .nullable inner => inner.Legible
  | .lowCardinality inner => inner.Legible
  | .nested columns => LegibleColumns columns
  | .other text => closes false text.toList = true

def LegibleColumns : List (String × TypeName) → Prop
  | [] => True
  | (_, type) :: rest => type.Legible ∧ LegibleColumns rest

end

mutual

/-- The tokens of a type tell whether its text is legible. -/
theorem legible_iff {ts : List Token} {t : TypeName} (h : Derives ts t)
    (hproper : ∀ t ∈ ts, t.Proper) :
    t.Legible ↔ Unescaped ts ∧ ∀ zone ∈ t.zones, '\'' ∉ zone.toList := by
  match h with
  | .named name => simp [TypeName.Legible, TypeName.zones, Unescaped]
  | .array hinner =>
    rw [unescaped_applied, TypeName.Legible, TypeName.zones]
    exact legible_iff hinner (proper_applied_iff.1 hproper).2
  | .nullable hinner =>
    rw [unescaped_applied, TypeName.Legible, TypeName.zones]
    exact legible_iff hinner (proper_applied_iff.1 hproper).2
  | .lowCardinality hinner =>
    rw [unescaped_applied, TypeName.Legible, TypeName.zones]
    exact legible_iff hinner (proper_applied_iff.1 hproper).2
  | .nested hcolumns =>
    rw [unescaped_applied, TypeName.Legible, TypeName.zones]
    exact legibleColumns_iff hcolumns (proper_applied_iff.1 hproper).2
  | .dateTime64 _ => simp [TypeName.Legible, TypeName.zones, Unescaped, applied]
  | .dateTime64Zone _ =>
    rw [unescaped_applied]
    simp [TypeName.Legible, TypeName.zones, Unescaped, PlainZone, and_comm]
  | .other hname hbalanced =>
    rw [TypeName.Legible, TypeName.zones, toList_otherText, ← printed_applied,
      closes_printed_iff hproper]
    exact (and_iff_left nofun).symm

theorem legibleColumns_iff {ts : List Token} {columns : List (String × TypeName)}
    (h : DerivesColumns ts columns) (hproper : ∀ t ∈ ts, t.Proper) :
    LegibleColumns columns ↔ Unescaped ts ∧ ∀ zone ∈ columnZones columns, '\'' ∉ zone.toList := by
  match h with
  | .last htype =>
    rw [List.forall_mem_cons] at hproper
    rw [unescaped_word, LegibleColumns, LegibleColumns, columnZones, columnZones,
      List.append_nil, and_true]
    exact legible_iff htype hproper.2
  | .cons htype hcolumns =>
    simp only [List.forall_mem_cons, List.forall_mem_append] at hproper
    rw [unescaped_word, unescaped_append, unescaped_comma, LegibleColumns, columnZones,
      List.forall_mem_append, legible_iff htype hproper.2.1,
      legibleColumns_iff hcolumns hproper.2.2.2]
    exact and_and_and_comm

end

/-! ## Legible types are found again -/

/-- Tokens are found in a text, whatever follows that does not continue its last run. -/
def Fronts (cs : List Char) (ts : List Token) : Prop :=
  ∀ rest tr, Breaks rest → Splits rest tr → Splits (cs ++ rest) (ts ++ tr)

theorem Splits.space {cs : List Char} {ts : List Token} (h : Splits cs ts) :
    Splits (' ' :: cs) ts :=
  .blank (by decide) h

section Fronts

variable {name : String} {inner cs : List Char} {ts ts' : List Token}

theorem Fronts.word (hname : isWord name = true) : Fronts name.toList [.word name] :=
  fun _ _ hbreaks h => h.word hname hbreaks

theorem Fronts.parameterized (hname : isWord name = true) (h : Fronts inner ts) :
    Fronts (parameterized name inner) (applied name ts) := by
  intro rest tr _ hrest
  have hinner := h (')' :: rest) (.closing :: tr) (.of_char (by decide)) hrest.closing
  simpa [ClickHouse.parameterized, applied] using hinner.opening.word hname (.of_char (by decide))

/-- A column is a name and, behind a blank, its type. -/
theorem Fronts.column (hname : isWord name = true) (h : Fronts cs ts) :
    Fronts (name.toList ++ ' ' :: cs) (.word name :: ts) := by
  intro rest tr hbreaks hrest
  simpa using (h rest tr hbreaks hrest).space.word hname (.of_char (by decide))

theorem Fronts.columns (hname : isWord name = true) (h : Fronts inner ts) (hnext : Fronts cs ts') :
    Fronts (name.toList ++ ' ' :: inner ++ ',' :: ' ' :: cs)
      (.word name :: (ts ++ .comma :: ts')) := by
  intro rest tr hbreaks hrest
  have hcomma := (hnext rest tr hbreaks hrest).space.comma
  simpa using h.column hname _ _ (.of_char (by decide)) hcomma

theorem isNumber_natText (n : Nat) : isNumber (Text.natText n) = true := by
  simp [isNumber, Text.natText, Text.all_isDigit_digits, Text.digits_ne_nil]

theorem ofDigits_natText (n : Nat) : Text.ofDigits (Text.natText n).toList = n := by
  rw [Text.natText, String.toList_ofList, Text.ofDigits_digits]

theorem Splits.natText {cs : List Char} {ts : List Token} (n : Nat) (hbreaks : Breaks cs)
    (h : Splits cs ts) : Splits (Text.digits n ++ cs) (.number (Text.natText n) :: ts) := by
  have hnumber := h.number (isNumber_natText n) hbreaks
  rwa [Text.natText, String.toList_ofList] at hnumber

theorem derives_dateTime64 {precision : Nat} (h : precision ≤ 255) :
    Derives (applied "DateTime64" [.number (Text.natText precision)])
      (.dateTime64 precision none) := by
  have hderives := Derives.dateTime64 ((ofDigits_natText precision).trans_le h)
  rwa [ofDigits_natText] at hderives

theorem derives_dateTime64_zone {precision : Nat} (h : precision ≤ 255) (zone : String) :
    Derives (applied "DateTime64" [.number (Text.natText precision), .comma, .quoted zone])
      (.dateTime64 precision (some zone)) := by
  have hderives : Derives
      (applied "DateTime64" [.number (Text.natText precision), .comma, .quoted zone])
      (.dateTime64 (Text.ofDigits (Text.natText precision).toList) (some zone)) :=
    .dateTime64Zone ((ofDigits_natText precision).trans_le h)
  rwa [ofDigits_natText] at hderives

end Fronts

theorem DerivesColumns.ne_nil {ts : List Token} {columns : List (String × TypeName)}
    (h : DerivesColumns ts columns) : columns ≠ [] := by
  cases h <;> simp

/-- Kept tokens are found regrouped. -/
theorem exists_fronts_other {name : String} {inner : List Token} (hname : name ∉ keywords)
    (hbalanced : Balanced inner) (hproper : ∀ t ∈ applied name inner, t.Proper)
    (hescape : Unescaped inner) :
    ∃ ts', Derives ts' (.other (TypeName.otherText name inner)) ∧
      Fronts (TypeName.other (TypeName.otherText name inner)).chars ts' := by
  have hword : (Token.word name).Proper := hproper _ List.mem_cons_self
  have hinner : ∀ t ∈ inner, t.Proper := (proper_applied_iff.1 hproper).2
  rcases hbalanced.exists_regrouped hinner hescape with ⟨inner', h⟩
  have hfronts : Fronts (printed inner') inner' :=
    fun _ _ => splits_printed h.proper h.unescaped h.separate
  refine ⟨applied name inner', ?_, ?_⟩
  · rw [← otherText_congr name h.printed_eq]
    exact .other hname h.balanced
  · rw [TypeName.chars_other, toList_otherText, ← h.printed_eq]
    exact hfronts.parameterized hword

mutual

/-- The text of a legible type has tokens from which the type derives. -/
theorem exists_fronts {ts : List Token} {t : TypeName} (h : Derives ts t)
    (hproper : ∀ t ∈ ts, t.Proper) (ht : t.Legible) :
    ∃ ts', Derives ts' t ∧ Fronts t.chars ts' := by
  match h with
  | .named name => exact ⟨_, .named name, .word (hproper _ List.mem_cons_self)⟩
  | .array hinner =>
    rw [TypeName.Legible] at ht
    rcases exists_fronts hinner (proper_applied_iff.1 hproper).2 ht with
      ⟨inner, hderives, hfronts⟩
    refine ⟨applied "Array" inner, .array hderives, ?_⟩
    rw [TypeName.chars_array]
    exact hfronts.parameterized (by decide)
  | .nullable hinner =>
    rw [TypeName.Legible] at ht
    rcases exists_fronts hinner (proper_applied_iff.1 hproper).2 ht with
      ⟨inner, hderives, hfronts⟩
    refine ⟨applied "Nullable" inner, .nullable hderives, ?_⟩
    rw [TypeName.chars_nullable]
    exact hfronts.parameterized (by decide)
  | .lowCardinality hinner =>
    rw [TypeName.Legible] at ht
    rcases exists_fronts hinner (proper_applied_iff.1 hproper).2 ht with
      ⟨inner, hderives, hfronts⟩
    refine ⟨applied "LowCardinality" inner, .lowCardinality hderives, ?_⟩
    rw [TypeName.chars_lowCardinality]
    exact hfronts.parameterized (by decide)
  | .nested hcolumns =>
    rw [TypeName.Legible] at ht
    rcases exists_frontsColumns hcolumns (proper_applied_iff.1 hproper).2 ht with
      ⟨inner, hderives, hfronts⟩
    refine ⟨applied "Nested" inner, .nested hderives, ?_⟩
    rw [TypeName.chars_nested]
    exact hfronts.parameterized (by decide)
  | .dateTime64 hprecision =>
    refine ⟨_, derives_dateTime64 hprecision, ?_⟩
    rw [TypeName.chars_dateTime64]
    refine Fronts.parameterized (by decide) ?_
    intro rest tr hbreaks hrest
    exact hrest.natText _ hbreaks
  | .dateTime64Zone hprecision =>
    rename_i digits zone
    rw [TypeName.Legible] at ht
    rcases ht zone rfl with ⟨hquote, hescape⟩
    refine ⟨_, derives_dateTime64_zone hprecision zone, ?_⟩
    rw [TypeName.chars_dateTime64_zone]
    refine Fronts.parameterized (by decide) ?_
    intro rest tr _ hrest
    -- The zone is written as it is, which is how a literal without quotes is spelled.
    have hspells : Spells (zone.toList.flatMap (spelled false)) zone.toList :=
      spells_spelled hescape fun _ => hquote
    rw [flatMap_spelled_false] at hspells
    have hzone := (hrest.literal hspells).space.comma
    simpa using hzone.natText (Text.ofDigits digits.toList) (.of_char (by decide))
  | .other hname hbalanced =>
    rw [TypeName.Legible, toList_otherText, ← printed_applied, closes_printed_iff hproper,
      unescaped_applied] at ht
    exact exists_fronts_other hname hbalanced hproper ht

theorem exists_frontsColumns {ts : List Token} {columns : List (String × TypeName)}
    (h : DerivesColumns ts columns) (hproper : ∀ t ∈ ts, t.Proper) (ht : LegibleColumns columns) :
    ∃ ts', DerivesColumns ts' columns ∧ Fronts (TypeName.columnChars columns) ts' := by
  match h with
  | .last htype =>
    rw [List.forall_mem_cons] at hproper
    rw [LegibleColumns] at ht
    rcases exists_fronts htype hproper.2 ht.1 with ⟨ts', hderives, hfronts⟩
    exact ⟨_, .last hderives, hfronts.column hproper.1⟩
  | .cons htype hcolumns =>
    simp only [List.forall_mem_cons, List.forall_mem_append] at hproper
    rw [LegibleColumns] at ht
    rcases exists_fronts htype hproper.2.1 ht.1 with ⟨ts', hderives, hfronts⟩
    rcases exists_frontsColumns hcolumns hproper.2.2.2 ht.2 with ⟨rest', hderives', hfronts'⟩
    refine ⟨_, .cons hderives hderives', ?_⟩
    rcases List.exists_cons_of_ne_nil hcolumns.ne_nil with ⟨next, others, rfl⟩
    rw [TypeName.columnChars_cons]
    exact hfronts.columns hproper.1 hfronts'

end

/-! ## What is found again is legible -/

section Found

variable {name : String} {inner cs rest : List Char} {ts tr : List Token} {P : Prop}

theorem Splits.of_word (h : Splits (name.toList ++ cs) (.word name :: ts)) : Splits cs ts :=
  (h.of_letters rfl).2

/-- What holds of the parameters, read up to the end, holds behind the name. -/
theorem Splits.of_parameterized
    (h : Splits (parameterized name inner ++ rest) (applied name ts ++ tr))
    (hinner : ∀ rest tr, Breaks rest → Splits (inner ++ rest) (ts ++ tr) → P ∧ Splits rest tr) :
    P ∧ Splits rest tr := by
  have happlied : Splits (name.toList ++ '(' :: (inner ++ ')' :: rest))
      (.word name :: .opening :: (ts ++ .closing :: tr)) := by
    simpa [parameterized, applied] using h
  have hend : Breaks (')' :: rest) := .of_char (by decide)
  exact (hinner _ _ hend happlied.of_word.of_opening).imp_right Splits.of_closing

theorem Splits.of_natText {n : Nat} {digits : String} (hbreaks : Breaks cs)
    (h : Splits (Text.digits n ++ cs) (.number digits :: ts)) : Splits cs ts := by
  refine h.of_breaks (Text.digits_ne_nil n) ?_ hbreaks
  exact List.all_eq_true.2 fun c hc =>
    isWordChar_of_isDigit (Text.isDigit_of_mem_digits hc)

theorem Splits.of_zone {zone : String}
    (h : Splits (',' :: ' ' :: '\'' :: (zone.toList ++ '\'' :: rest))
      (.comma :: .quoted zone :: tr)) : PlainZone zone ∧ Splits rest tr := by
  have hzone := h.of_comma.of_blank (by decide)
  rw [← flatMap_spelled_false zone.toList] at hzone
  exact hzone.of_literal.imp_left fun hplain => ⟨hplain.2 rfl, hplain.1⟩

end Found

mutual

/-- A type whose text has the tokens from which it derives is legible. -/
theorem legible_of_splits {ts tr : List Token} {t : TypeName} {rest : List Char}
    (h : Derives ts t) (hs : Splits (t.chars ++ rest) (ts ++ tr)) :
    t.Legible ∧ Splits rest tr := by
  match h with
  | .named name =>
    rw [TypeName.Legible]
    exact ⟨trivial, hs.of_word⟩
  | .array hinner =>
    rw [TypeName.chars_array] at hs
    rw [TypeName.Legible]
    exact hs.of_parameterized fun _ _ _ => legible_of_splits hinner
  | .nullable hinner =>
    rw [TypeName.chars_nullable] at hs
    rw [TypeName.Legible]
    exact hs.of_parameterized fun _ _ _ => legible_of_splits hinner
  | .lowCardinality hinner =>
    rw [TypeName.chars_lowCardinality] at hs
    rw [TypeName.Legible]
    exact hs.of_parameterized fun _ _ _ => legible_of_splits hinner
  | .nested hcolumns =>
    rw [TypeName.chars_nested] at hs
    rw [TypeName.Legible]
    exact hs.of_parameterized fun _ _ _ => legibleColumns_of_splits hcolumns
  | .dateTime64 _ =>
    rw [TypeName.chars_dateTime64] at hs
    rw [TypeName.Legible]
    exact hs.of_parameterized fun _ _ hbreaks hs => ⟨nofun, hs.of_natText hbreaks⟩
  | .dateTime64Zone _ =>
    rename_i zone _
    rw [TypeName.chars_dateTime64_zone] at hs
    rw [TypeName.Legible]
    refine hs.of_parameterized fun rest tr _ hs => ?_
    simp only [List.append_assoc, List.cons_append, List.nil_append] at hs
    have hzone := hs.of_natText (.of_char (by decide))
    rcases hzone.of_zone with ⟨hplain, hrest⟩
    exact ⟨by simpa using hplain, hrest⟩
  | .other _ _ =>
    rw [TypeName.chars_other, toList_otherText, ← printed_applied] at hs
    rw [TypeName.Legible, toList_otherText, ← printed_applied,
      closes_printed_iff fun t ht => hs.proper t (List.mem_append_left _ ht)]
    exact (unescaped_of_splits_printed hs).imp_left And.left

theorem legibleColumns_of_splits {ts tr : List Token} {columns : List (String × TypeName)}
    {rest : List Char} (h : DerivesColumns ts columns)
    (hs : Splits (TypeName.columnChars columns ++ rest) (ts ++ tr)) :
    LegibleColumns columns ∧ Splits rest tr := by
  match h with
  | .last htype =>
    rw [TypeName.columnChars_singleton, List.append_assoc] at hs
    rw [LegibleColumns, LegibleColumns, and_true]
    exact legible_of_splits htype (hs.of_word.of_blank (by decide))
  | .cons htype hcolumns =>
    rcases List.exists_cons_of_ne_nil hcolumns.ne_nil with ⟨next, others, rfl⟩
    rw [TypeName.columnChars_cons] at hs
    simp only [List.append_assoc, List.cons_append] at hs
    rw [LegibleColumns]
    rcases legible_of_splits htype (hs.of_word.of_blank (by decide)) with ⟨hlegible, hnext⟩
    rcases legibleColumns_of_splits hcolumns (hnext.of_comma.of_blank (by decide)) with
      ⟨hlegible', hrest⟩
    exact ⟨⟨hlegible, hlegible'⟩, hrest⟩

end

/-! ## Texts -/

/-- The tokens of a text. -/
def tokensOf (s : String) : Except ParseFault (List Token) :=
  (scan (byteSize s.toList) s.toList).map (·.map (·.token))

theorem tokensOf_eq_ok_iff {s : String} {ts : List Token} :
    tokensOf s = .ok ts ↔ Splits s.toList ts := by
  rw [← scans_iff_splits (byteSize s.toList)]
  constructor
  · intro h
    rcases Outcome.map_eq_ok h with ⟨ls, hscan, hls⟩
    exact ⟨ls, hscan, hls⟩
  · rintro ⟨ls, hscan, rfl⟩
    rw [tokensOf, hscan]
    rfl

namespace TypeName

/-- A type is read from its text exactly if it is legible. -/
theorem parse_text_iff {ts : List Token} {t : TypeName} (h : Derives ts t)
    (hproper : ∀ t ∈ ts, t.Proper) : parse t.text = .ok t ↔ t.Legible := by
  constructor
  · intro hread
    rcases derives_of_parse hread with ⟨ts', hs, hderives⟩
    rw [text, String.toList_ofList, ← List.append_nil t.chars, ← List.append_nil ts'] at hs
    exact (legible_of_splits hderives hs).1
  · intro ht
    rcases exists_fronts h hproper ht with ⟨ts', hderives, hfronts⟩
    have hs := hfronts [] [] nofun .nil
    rw [List.append_nil, List.append_nil] at hs
    refine parse_of_derives ?_ hderives
    rwa [text, String.toList_ofList]

/-- A type that was read is read again from its own text exactly if no literal held a backslash and
no zone holds a quote. A text that is kept has the tokens that were read exactly if no literal held
a backslash and no words or numbers stood side by side. -/
theorem reprint_faithful_iff {s : String} {t : TypeName} (h : parse s = .ok t) :
    ∃ ts, tokensOf s = .ok ts ∧
      (parse t.text = .ok t ↔ Unescaped ts ∧ ∀ zone ∈ t.zones, '\'' ∉ zone.toList) ∧
      ∀ text, t = .other text → (tokensOf text = .ok ts ↔ Unescaped ts ∧ Separate ts) := by
  rcases derives_of_parse h with ⟨ts, hs, hderives⟩
  refine ⟨ts, tokensOf_eq_ok_iff.2 hs, ?_, ?_⟩
  · rw [parse_text_iff hderives hs.proper, legible_iff hderives hs.proper]
  · rintro text rfl
    cases hderives with
    | other hname hbalanced =>
      rw [tokensOf_eq_ok_iff, toList_otherText, ← printed_applied, splits_printed_iff hs.proper]

/-- Escaped quotes are kept, and a blank stands behind commas alone. -/
theorem reprint_faithful_enum :
    let s := "Enum8( 'it\\'s' ,'b' )"
    let text := "Enum8('it\\'s', 'b')"
    parse s = .ok (.other text) ∧ parse text = .ok (.other text) ∧ tokensOf text = tokensOf s := by
  intro s text
  have hread : parse s = .ok (.other text) := by decide +kernel
  have htokens : tokensOf s = .ok (applied "Enum8" [.quoted "it's", .comma, .quoted "b"]) := by
    decide +kernel
  rcases reprint_faithful_iff hread with ⟨ts, hts, hagain, hsame⟩
  cases htokens.symm.trans hts
  have hescape : Unescaped (applied "Enum8" [.quoted "it's", .comma, .quoted "b"]) := by
    simp [applied, Unescaped]
  have hseparate : Separate (applied "Enum8" [.quoted "it's", .comma, .quoted "b"]) := by
    simp [applied, Separate, Token.letters?]
  have htext : (other text).text = text := by
    rw [TypeName.text, chars_other, String.ofList_toList]
  have hzones : ∀ zone ∈ (other text).zones, '\'' ∉ zone.toList := List.forall_mem_nil _
  rw [htext] at hagain
  exact ⟨hread, hagain.2 ⟨hescape, hzones⟩,
    ((hsame text rfl).2 ⟨hescape, hseparate⟩).trans hts.symm⟩

/-- Words that stand side by side grow together in a text that is kept, and a zone with a quote
cannot be read again. -/
theorem tuple_not_kept :
    parse "Tuple(a String, b Int32)" = .ok (.other "Tuple(aString, bInt32)") ∧
      tokensOf "Tuple(aString, bInt32)" ≠ tokensOf "Tuple(a String, b Int32)" ∧
      parse "DateTime64(3, 'a\\'b')" = .ok (.dateTime64 3 (some "a'b")) ∧
      parse (text (.dateTime64 3 (some "a'b"))) ≠ .ok (.dateTime64 3 (some "a'b")) := by
  refine ⟨?_, ?_, ?_, ?_⟩ <;> decide +kernel

end TypeName
end ClickHouse
end Ingest
