import Ingest.Proofs.ClickHouse.Splitting
import Mathlib.Data.List.Chain

/-!
# Written tokens

Tokens that are written one behind the other are found again in the text exactly if no literal among
them holds a backslash and no two words or numbers are neighbours (`splits_printed_iff`). Neighbours
grow together, which leaves the text as it is (`joined`).
-/

namespace Ingest
namespace ClickHouse

/-! ## Tokens and their texts -/

namespace Token

/-- The run of word characters that a word or a number is. -/
def letters? : Token → Option (List Char)
  | word name => some name.toList
  | number digits => some digits.toList
  | _ => none

/-- What the tokens of a text are: words and numbers look like that. -/
def Proper : Token → Prop
  | word name => isWord name = true
  | number digits => isNumber digits = true
  | _ => True

/-- The text of a token inside a type that is kept; a blank follows a comma. -/
def printed (t : Token) : List Char :=
  if t = .comma then [',', ' '] else t.chars

end Token

def printed (ts : List Token) : List Char :=
  ts.flatMap Token.printed

/-- No literal holds a backslash. -/
def Unescaped (ts : List Token) : Prop :=
  ∀ text, .quoted text ∈ ts → '\\' ∉ text.toList

/-- No two words or numbers are neighbours. -/
def Separate (ts : List Token) : Prop :=
  ts.IsChain fun t t' => t.letters? = none ∨ t'.letters? = none

/-- A character between the quotes of a literal; a quote may have a backslash in front of it. -/
def spelled (escape : Bool) (c : Char) : List Char :=
  if escape && c == '\'' then ['\\', '\''] else [c]

/-- The text between the quotes of a literal in which all quotes are escaped. -/
def escaped (text : List Char) : List Char :=
  text.flatMap (spelled true)

theorem spelled_of_ne {c : Char} (h : c ≠ '\'') (escape : Bool) : spelled escape c = [c] := by
  simp [spelled, h]

theorem flatMap_spelled_false (text : List Char) : text.flatMap (spelled false) = text :=
  List.flatMap_singleton' text

theorem printed_cons (t : Token) (ts : List Token) : printed (t :: ts) = t.printed ++ printed ts :=
  rfl

theorem printed_append (ts ts' : List Token) : printed (ts ++ ts') = printed ts ++ printed ts' :=
  List.flatMap_append

theorem printed_quoted (text : String) :
    (Token.quoted text).printed = '\'' :: (escaped text.toList ++ ['\'']) := rfl

theorem printed_of_letters {t : Token} {run : List Char} (h : t.letters? = some run) :
    t.printed = run := by
  cases t <;> cases h <;> rfl

/-- Runs are not empty, and consist of word characters. -/
theorem Token.Proper.run {t : Token} (ht : t.Proper) {run : List Char} (h : t.letters? = some run) :
    run ≠ [] ∧ run.all isWordChar = true := by
  cases t with
  | word name =>
    cases h
    simp only [Proper, isWord, Bool.and_eq_true, Bool.not_eq_true'] at ht
    refine ⟨?_, ht.1⟩
    intro hnil
    rw [hnil] at ht
    exact absurd ht.2 (by decide)
  | number digits =>
    cases h
    simp only [Proper, isNumber, Bool.and_eq_true, Bool.not_eq_true',
      List.isEmpty_eq_false_iff] at ht
    refine ⟨ht.1, List.all_eq_true.2 fun c hc => ?_⟩
    exact isWordChar_of_isDigit (List.all_eq_true.1 ht.2 c hc)
  | quoted text => cases h
  | opening => cases h
  | closing => cases h
  | comma => cases h

theorem Splits.proper {cs : List Char} {ts : List Token} (h : Splits cs ts) :
    ∀ t ∈ ts, t.Proper := by
  induction h with
  | nil => nofun
  | blank _ _ ih => exact ih
  | opening _ ih => exact List.forall_mem_cons.2 ⟨trivial, ih⟩
  | closing _ ih => exact List.forall_mem_cons.2 ⟨trivial, ih⟩
  | comma _ ih => exact List.forall_mem_cons.2 ⟨trivial, ih⟩
  | literal _ _ ih => exact List.forall_mem_cons.2 ⟨trivial, ih⟩
  | word hname _ _ ih => exact List.forall_mem_cons.2 ⟨hname, ih⟩
  | number hdigits _ _ ih => exact List.forall_mem_cons.2 ⟨hdigits, ih⟩

theorem unescaped_cons {t : Token} {ts : List Token} :
    Unescaped (t :: ts) ↔ (∀ text, t = .quoted text → '\\' ∉ text.toList) ∧ Unescaped ts := by
  simp only [Unescaped, List.mem_cons]
  constructor
  · intro h
    exact ⟨fun text ht => h text (.inl ht.symm), fun text ht => h text (.inr ht)⟩
  · rintro ⟨hfirst, hrest⟩ text (ht | ht)
    · exact hfirst text ht.symm
    · exact hrest text ht

/-! ## Literals that are read back -/

theorem spells_spelled {escape : Bool} {text : List Char} (hescape : '\\' ∉ text)
    (hquote : escape = false → '\'' ∉ text) : Spells (text.flatMap (spelled escape)) text := by
  induction text with
  | nil => exact .nil
  | cons c text ih =>
    simp only [List.mem_cons, not_or] at hescape hquote
    have hrest := ih hescape.2 fun h => (hquote h).2
    by_cases hc : c = '\''
    · subst hc
      cases escape with
      | false => exact absurd rfl (hquote rfl).1
      | true => exact .escaped hrest
    · rw [List.flatMap_cons, spelled_of_ne hc]
      exact .plain hc (Ne.symm hescape.1) hrest

theorem replicate_append_cons (k : Nat) (c : Char) (cs : List Char) :
    List.replicate k c ++ c :: cs = c :: (List.replicate k c ++ cs) := by
  induction k with
  | zero => rfl
  | succ k ih => rw [List.replicate_succ, List.cons_append, ih, List.cons_append]

theorem readLiteral_escape (c : Char) (cs : List Char) :
    readLiteral ('\\' :: c :: cs) = (readLiteral cs).map fun r => (c :: r.1, r.2) := by
  rw [readLiteral]

theorem map_cons_eq_some_iff {c d : Char} {text left : List Char}
    {read : Option (List Char × List Char)} :
    (read.map fun r => (c :: r.1, r.2)) = some (d :: text, left) ↔
      c = d ∧ read = some (text, left) := by
  rw [Option.map_eq_some_iff]
  constructor
  · rintro ⟨⟨text', left'⟩, rfl, h⟩
    cases h
    exact ⟨rfl, rfl⟩
  · rintro ⟨rfl, rfl⟩
    exact ⟨_, rfl, rfl⟩

theorem readLiteral_spelled {escape : Bool} {c d : Char} {cs text left : List Char} (hc : c ≠ '\\')
    (h : readLiteral (spelled escape c ++ cs) = some (d :: text, left)) :
    c = d ∧ (escape = false → c ≠ '\'') ∧ readLiteral cs = some (text, left) := by
  by_cases hquote : c = '\''
  · subst hquote
    cases escape with
    | false =>
      rw [spelled, Bool.false_and, if_neg Bool.false_ne_true, List.singleton_append,
        readLiteral] at h
      cases h
    | true =>
      change readLiteral ('\\' :: '\'' :: cs) = _ at h
      rw [readLiteral_escape, map_cons_eq_some_iff] at h
      exact ⟨h.1, fun hplain => absurd hplain (by decide), h.2⟩
  · rw [spelled_of_ne hquote, List.singleton_append, readLiteral_of_ne hquote hc,
      map_cons_eq_some_iff] at h
    exact ⟨h.1, fun _ => hquote, h.2⟩

/-- A backslash that is read after another one stands for a backslash, unless the literal ends. -/
theorem readLiteral_backslash {escape : Bool} {c : Char} {cs text left : List Char}
    (htext : text ≠ []) (h : readLiteral ('\\' :: (spelled escape c ++ cs)) =
      some ('\\' :: text, left)) :
    c = '\\' ∧ readLiteral cs = some (text, left) := by
  by_cases hquote : escape = true ∧ c = '\''
  · rcases hquote with ⟨rfl, rfl⟩
    change readLiteral ('\\' :: '\\' :: '\'' :: cs) = _ at h
    rw [readLiteral_escape, map_cons_eq_some_iff, readLiteral] at h
    cases h.2
    exact absurd rfl htext
  · have hplain : spelled escape c = [c] := by
      rw [spelled, if_neg]
      simpa using hquote
    rwa [hplain, List.singleton_append, readLiteral_escape, map_cons_eq_some_iff] at h

/-- A literal in which at most quotes are escaped is read as it was, behind some backslashes, only
if these are none, it holds no backslash and no quote ends it early. -/
theorem plain_of_readLiteral {escape : Bool} {rest left : List Char} (text : List Char) (k : Nat)
    (h : readLiteral (text.flatMap (spelled escape) ++ '\'' :: rest) =
      some (List.replicate k '\\' ++ text, left)) :
    k = 0 ∧ '\\' ∉ text ∧ (escape = false → '\'' ∉ text) ∧ left = rest := by
  -- A backslash takes the next character along, so that the literal shrinks by two at times.
  induction hn : text.length using Nat.strong_induction_on generalizing text k with
  | _ n ih =>
  subst hn
  cases text with
  | nil =>
    rw [List.flatMap_nil, List.nil_append, readLiteral] at h
    cases k with
    | zero =>
      cases h
      simp
    | succ k => cases h
  | cons c text =>
    rw [List.flatMap_cons, List.append_assoc] at h
    by_cases hbackslash : c = '\\'
    · subst hbackslash
      rw [spelled_of_ne (by decide), List.singleton_append, replicate_append_cons] at h
      -- It escapes what comes next, so that this must be a backslash, and one more is due.
      cases text with
      | nil =>
        rw [List.flatMap_nil, List.nil_append, readLiteral_escape, map_cons_eq_some_iff] at h
        exact absurd h.1 (by decide)
      | cons d text =>
        rw [List.flatMap_cons, List.append_assoc] at h
        rcases readLiteral_backslash (by simp) h with ⟨rfl, hread⟩
        rw [replicate_append_cons, ← List.cons_append, ← List.replicate_succ] at hread
        have hless : text.length < ('\\' :: '\\' :: text).length := by
          simp only [List.length_cons]
          omega
        cases (ih _ hless text (k + 1) hread rfl).1
    · cases k with
      | zero =>
        rcases readLiteral_spelled hbackslash h with ⟨-, hfirst, hread⟩
        rcases ih _ (Nat.lt_succ_self _) text 0 hread rfl with ⟨-, hescape, hends, hleft⟩
        refine ⟨rfl, ?_, ?_, hleft⟩
        · simpa [Ne.symm hbackslash] using hescape
        · intro hplain
          simpa [Ne.symm (hfirst hplain)] using hends hplain
      | succ k => exact absurd (readLiteral_spelled hbackslash h).1 hbackslash

/-! ## Tokens that are found -/

/-- The characters that a token takes from the front of a text. -/
def Token.Takes : Token → List Char → List Char → Prop
  | word name, cs, rest => cs = name.toList ++ rest ∧ Breaks rest
  | number digits, cs, rest => cs = digits.toList ++ rest ∧ Breaks rest
  | quoted text, cs, rest => ∃ raw, cs = '\'' :: (raw ++ '\'' :: rest) ∧ Spells raw text.toList
  | opening, cs, rest => cs = '(' :: rest
  | closing, cs, rest => cs = ')' :: rest
  | comma, cs, rest => cs = ',' :: rest

section Found

variable {c : Char} {cs run rest : List Char} {t : Token} {ts tr : List Token}

/-- The first token is found where the text does not begin with a blank. -/
theorem Splits.takes (h : Splits (c :: cs) (t :: ts)) (hc : Text.isBlank c = false) :
    ∃ rest, t.Takes (c :: cs) rest ∧ Splits rest ts := by
  generalize c :: cs = text, htext : c :: cs = text at h
  cases h with
  | blank hblank _ =>
    cases htext
    rw [hc] at hblank
    cases hblank
  | opening h => exact ⟨_, rfl, h⟩
  | closing h => exact ⟨_, rfl, h⟩
  | comma h => exact ⟨_, rfl, h⟩
  | literal hspells h => exact ⟨_, ⟨_, rfl, hspells⟩, h⟩
  | word _ hbreaks h => exact ⟨_, ⟨rfl, hbreaks⟩, h⟩
  | number _ hbreaks h => exact ⟨_, ⟨rfl, hbreaks⟩, h⟩

theorem Splits.of_opening (h : Splits ('(' :: cs) (.opening :: ts)) : Splits cs ts := by
  rcases h.takes (by decide) with ⟨rest, hrest, h⟩
  cases hrest
  exact h

theorem Splits.of_closing (h : Splits (')' :: cs) (.closing :: ts)) : Splits cs ts := by
  rcases h.takes (by decide) with ⟨rest, hrest, h⟩
  cases hrest
  exact h

theorem Splits.of_comma (h : Splits (',' :: cs) (.comma :: ts)) : Splits cs ts := by
  rcases h.takes (by decide) with ⟨rest, hrest, h⟩
  cases hrest
  exact h

theorem Splits.of_blank (hc : Text.isBlank c = true) (h : Splits (c :: cs) ts) : Splits cs ts := by
  rcases scans_of_splits 0 h with ⟨ls, hscan, hls⟩
  rw [scan] at hscan
  simp only [hc, if_true] at hscan
  exact (scans_iff_splits 0).1 ⟨ls, hscan, hls⟩

/-- A literal in which at most quotes are escaped is found again only if it needs no more. -/
theorem Splits.of_literal {escape : Bool} {text : String}
    (h : Splits ('\'' :: (text.toList.flatMap (spelled escape) ++ '\'' :: cs))
      (.quoted text :: ts)) :
    ('\\' ∉ text.toList ∧ (escape = false → '\'' ∉ text.toList)) ∧ Splits cs ts := by
  rcases h.takes (by decide) with ⟨rest, ⟨raw, hraw, hspells⟩, hrest⟩
  have hread := readLiteral_of_spells hspells rest
  rw [← (List.cons.inj hraw).2] at hread
  rcases plain_of_readLiteral text.toList 0 hread with ⟨-, hescape, hquote, rfl⟩
  exact ⟨⟨hescape, hquote⟩, hrest⟩

/-- Where word characters stand, a word or a number is found. -/
theorem Splits.of_run (hne : run ≠ []) (hrun : run.all Token.isWordChar = true)
    (h : Splits (run ++ cs) (t :: ts)) :
    ∃ run' rest, t.letters? = some run' ∧ run ++ cs = run' ++ rest ∧ Breaks rest ∧
      Splits rest ts := by
  cases run with
  | nil => exact absurd rfl hne
  | cons c run =>
    rw [List.all_cons, Bool.and_eq_true] at hrun
    rcases special_of_isWordChar hrun.1 with ⟨hblank, hopening, hclosing, hcomma, hquote⟩
    rcases h.takes hblank with ⟨rest, htakes, hrest⟩
    cases t with
    | word name => exact ⟨_, rest, rfl, htakes.1, htakes.2, hrest⟩
    | number digits => exact ⟨_, rest, rfl, htakes.1, htakes.2, hrest⟩
    | quoted text =>
      rcases htakes with ⟨raw, hraw, -⟩
      exact absurd (List.cons.inj hraw).1 hquote
    | opening => exact absurd (List.cons.inj htakes).1 hopening
    | closing => exact absurd (List.cons.inj htakes).1 hclosing
    | comma => exact absurd (List.cons.inj htakes).1 hcomma

/-- The run of a token that is found ends with the token. -/
theorem Splits.of_letters (ht : t.letters? = some run) (h : Splits (run ++ cs) (t :: ts)) :
    Breaks cs ∧ Splits cs ts := by
  rcases (h.proper t List.mem_cons_self).run ht with ⟨hne, hrun⟩
  rcases h.of_run hne hrun with ⟨run', rest, ht', hcs, hbreaks, hrest⟩
  cases ht.symm.trans ht'
  cases List.append_cancel_left hcs
  exact ⟨hbreaks, hrest⟩

/-- Where a run of word characters ends, the token that is found ends. -/
theorem Splits.of_breaks (hne : run ≠ []) (hrun : run.all Token.isWordChar = true)
    (hbreaks : Breaks cs) (h : Splits (run ++ cs) (t :: ts)) : Splits cs ts := by
  rcases h.of_run hne hrun with ⟨run', rest, ht', hcs, hbreaks', hrest⟩
  have hrun' := ((h.proper t List.mem_cons_self).run ht').2
  have hspan := span_of_breaks (List.all_eq_true.1 hrun) hbreaks
  have hspan' := span_of_breaks (List.all_eq_true.1 hrun') hbreaks'
  rw [hcs] at hspan
  cases hspan.2.symm.trans hspan'.2
  exact hrest

end Found

/-! ## Printed tokens that are found -/

section Printed

variable {rest : List Char} {ts tr : List Token}

theorem breaks_printed (hts : ∀ t ∈ ts.head?, t.letters? = none) (hrest : Breaks rest) :
    Breaks (printed ts ++ rest) := by
  cases ts with
  | nil => exact hrest
  | cons t ts =>
    have ht : t.letters? = none := hts t rfl
    cases t with
    | word name => cases ht
    | number digits => cases ht
    | quoted text => exact .of_char (by decide)
    | opening => exact .of_char (by decide)
    | closing => exact .of_char (by decide)
    | comma => exact .of_char (by decide)

theorem letters?_of_breaks (hts : ∀ t ∈ ts, t.Proper) (h : Breaks (printed ts ++ rest)) :
    ∀ t ∈ ts.head?, t.letters? = none := by
  intro t ht
  rcases List.head?_eq_some_iff.1 ht with ⟨ts', rfl⟩
  cases hrun : t.letters? with
  | none => rfl
  | some run =>
    rcases (hts t List.mem_cons_self).run hrun with ⟨hne, hword⟩
    cases run with
    | nil => exact absurd rfl hne
    | cons c run =>
      rw [printed_cons, printed_of_letters hrun] at h
      rw [List.all_cons, h c rfl] at hword
      cases hword

theorem separate_cons {t : Token} :
    Separate (t :: ts) ↔
      (t.letters? = none ∨ ∀ t' ∈ ts.head?, t'.letters? = none) ∧ Separate ts := by
  rw [Separate, List.isChain_cons]
  refine and_congr_left fun _ => ?_
  constructor
  · intro h
    by_cases ht : t.letters? = none
    · exact .inl ht
    · exact .inr fun t' ht' => (h t' ht').resolve_left ht
  · rintro (ht | ht) t' ht'
    · exact .inl ht
    · exact .inr (ht t' ht')

/-- Tokens are found in their text if the literals need no more than quotes escaped, and words and
numbers stand apart. -/
theorem splits_printed (hproper : ∀ t ∈ ts, t.Proper) (hescape : Unescaped ts)
    (hseparate : Separate ts) (hbreaks : Breaks rest) (h : Splits rest tr) :
    Splits (printed ts ++ rest) (ts ++ tr) := by
  induction ts with
  | nil => exact h
  | cons t ts ih =>
    rw [List.forall_mem_cons] at hproper
    rw [unescaped_cons] at hescape
    rw [separate_cons] at hseparate
    have hrest := ih hproper.2 hescape.2 hseparate.2
    rw [printed_cons, List.append_assoc, List.cons_append]
    cases t with
    | word name =>
      exact hrest.word hproper.1 (breaks_printed (hseparate.1.resolve_left nofun) hbreaks)
    | number digits =>
      exact hrest.number hproper.1 (breaks_printed (hseparate.1.resolve_left nofun) hbreaks)
    | quoted text =>
      have hspells : Spells (escaped text.toList) text.toList :=
        spells_spelled (hescape.1 text rfl) nofun
      simpa [printed_quoted] using hrest.literal hspells
    | opening => exact .opening hrest
    | closing => exact .closing hrest
    | comma => exact .comma (.blank (by decide) hrest)

/-- Tokens that are found in their text have nothing but quotes to escape, and their words and
numbers stand apart. -/
theorem unescaped_of_splits_printed (h : Splits (printed ts ++ rest) (ts ++ tr)) :
    (Unescaped ts ∧ Separate ts) ∧ Splits rest tr := by
  induction ts with
  | nil => exact ⟨⟨nofun, .nil⟩, h⟩
  | cons t ts ih =>
    have hproper : ∀ t' ∈ ts, t'.Proper := fun t' ht' => h.proper t' (by simp [ht'])
    rw [printed_cons, List.append_assoc, List.cons_append] at h
    rw [unescaped_cons, separate_cons]
    cases ht : t.letters? with
    | some run =>
      rw [printed_of_letters ht] at h
      rcases h.of_letters ht with ⟨hbreaks, hrest⟩
      rcases ih hrest with ⟨⟨hescape, hseparate⟩, hrest⟩
      refine ⟨⟨⟨?_, hescape⟩, .inr (letters?_of_breaks hproper hbreaks), hseparate⟩, hrest⟩
      rintro text rfl
      cases ht
    | none =>
      have hrest : (∀ text, t = .quoted text → '\\' ∉ text.toList) ∧
          Splits (printed ts ++ rest) (ts ++ tr) := by
        cases t with
        | word name => cases ht
        | number digits => cases ht
        | quoted text =>
          rw [printed_quoted, List.cons_append, List.append_assoc] at h
          rcases h.of_literal with ⟨⟨hescape, -⟩, hrest⟩
          refine ⟨?_, hrest⟩
          rintro _ ⟨⟩
          exact hescape
        | opening => exact ⟨nofun, h.of_opening⟩
        | closing => exact ⟨nofun, h.of_closing⟩
        | comma => exact ⟨nofun, h.of_comma.of_blank (by decide)⟩
      rcases ih hrest.2 with ⟨⟨hescape, hseparate⟩, hrest'⟩
      exact ⟨⟨⟨hrest.1, hescape⟩, .inl rfl, hseparate⟩, hrest'⟩

/-- Tokens are the tokens of their own text exactly if they have nothing but quotes to escape, and
words and numbers stand apart. -/
theorem splits_printed_iff (hproper : ∀ t ∈ ts, t.Proper) :
    Splits (printed ts) ts ↔ Unescaped ts ∧ Separate ts := by
  have hend : Breaks [] := nofun
  rw [← List.append_nil (printed ts)]
  constructor
  · intro h
    have happend : Splits (printed ts ++ []) (ts ++ []) := by rwa [List.append_nil ts]
    exact (unescaped_of_splits_printed happend).1
  · rintro ⟨hescape, hseparate⟩
    simpa using splits_printed hproper hescape hseparate hend .nil

end Printed

/-! ## Texts of printed tokens -/

/-- Outside of a literal, or inside one, a text opens and closes literals in which nothing but
quotes is escaped, and none is left open. -/
def closes (inside : Bool) : List Char → Bool
  | [] => !inside
  | '\\' :: '\'' :: cs => inside && closes inside cs
  | c :: cs => if c = '\'' then closes (!inside) cs else c != '\\' && closes inside cs

section Closes

variable {inside : Bool} {c : Char} {cs : List Char}

theorem closes_quote : closes inside ('\'' :: cs) = closes (!inside) cs := by
  rw [closes]
  · exact if_pos rfl
  · intro cs' hc
    exact absurd hc (by decide)

theorem closes_plain (hquote : c ≠ '\'') (hescape : c ≠ '\\') :
    closes inside (c :: cs) = closes inside cs := by
  rw [closes]
  · simp [hquote, hescape]
  · intro cs' hc
    exact absurd hc hescape

theorem closes_backslash (h : closes inside ('\\' :: cs) = true) :
    inside = true ∧ ∃ cs', cs = '\'' :: cs' ∧ closes inside cs' = true := by
  unfold closes at h
  split at h
  · rename_i heq
    cases heq
  · rename_i cs' heq
    cases heq
    rw [Bool.and_eq_true] at h
    exact ⟨h.1, cs', rfl, h.2⟩
  · rename_i c' cs' _ heq
    cases heq
    simp at h

theorem closes_run {run : List Char} (hrun : run.all Token.isWordChar = true) :
    closes inside (run ++ cs) = closes inside cs := by
  induction run with
  | nil => rfl
  | cons c run ih =>
    rw [List.all_cons, Bool.and_eq_true] at hrun
    have hquote : c ≠ '\'' := (special_of_isWordChar hrun.1).2.2.2.2
    have hescape : c ≠ '\\' := by
      rintro rfl
      exact absurd hrun.1 (by decide)
    rw [List.cons_append, closes_plain hquote hescape, ih hrun.2]

/-- A token other than a literal neither opens nor closes one. -/
theorem closes_token {t : Token} (ht : t.Proper) (hliteral : ∀ text, t ≠ .quoted text) :
    closes inside (t.printed ++ cs) = closes inside cs := by
  cases hrun : t.letters? with
  | some run =>
    rw [printed_of_letters hrun]
    exact closes_run (ht.run hrun).2
  | none =>
    cases t with
    | word name => cases hrun
    | number digits => cases hrun
    | quoted text => exact absurd rfl (hliteral text)
    | opening => exact closes_plain (by decide) (by decide)
    | closing => exact closes_plain (by decide) (by decide)
    | comma =>
      exact (closes_plain (by decide) (by decide)).trans (closes_plain (by decide) (by decide))

theorem closes_escaped {text : List Char} (h : '\\' ∉ text) :
    closes true (escaped text ++ '\'' :: cs) = closes false cs := by
  induction text with
  | nil => exact closes_quote
  | cons c text ih =>
    rw [List.mem_cons, not_or] at h
    rw [escaped, List.flatMap_cons, List.append_assoc]
    by_cases hc : c = '\''
    · subst hc
      exact ih h.2
    · rw [spelled_of_ne hc, List.singleton_append, closes_plain hc (Ne.symm h.1)]
      exact ih h.2

/-- A literal is closed where it ends, unless a backslash at its end takes the quote along. -/
theorem closes_of_escaped {text : List Char}
    (h : closes true (escaped text ++ '\'' :: cs) = true) :
    ('\\' ∉ text ∧ closes false cs = true) ∨ closes true cs = true := by
  induction text with
  | nil =>
    rw [escaped, List.flatMap_nil, List.nil_append, closes_quote] at h
    exact .inl ⟨nofun, h⟩
  | cons c text ih =>
    rw [escaped, List.flatMap_cons, List.append_assoc] at h
    by_cases hquote : c = '\''
    · subst hquote
      exact (ih h).imp_left (And.imp_left (by simp))
    · rw [spelled_of_ne hquote, List.singleton_append] at h
      by_cases hescape : c = '\\'
      · subst hescape
        rcases closes_backslash h with ⟨-, cs', hcs, h⟩
        cases text with
        | nil =>
          cases hcs
          exact .inr h
        | cons d text =>
          rw [List.flatMap_cons, List.append_assoc] at hcs
          by_cases hd : d = '\''
          · subst hd
            cases hcs
          · rw [spelled_of_ne hd] at hcs
            exact absurd (List.cons.inj hcs).1 hd
      · rw [closes_plain hquote hescape] at h
        refine (ih h).imp_left (And.imp_left fun hnone => ?_)
        simpa [Ne.symm hescape] using hnone

/-- Where a literal is open already, the text of another one closes it, and leaves one open. -/
theorem closes_of_open {text : List Char}
    (h : closes false (escaped text ++ '\'' :: cs) = true) : closes true cs = true := by
  induction text with
  | nil => rwa [escaped, List.flatMap_nil, List.nil_append, closes_quote] at h
  | cons c text ih =>
    rw [escaped, List.flatMap_cons, List.append_assoc] at h
    by_cases hquote : c = '\''
    · subst hquote
      cases (closes_backslash h).1
    · rw [spelled_of_ne hquote, List.singleton_append] at h
      by_cases hescape : c = '\\'
      · subst hescape
        cases (closes_backslash h).1
      · rw [closes_plain hquote hescape] at h
        exact ih h

/-- A literal that is left open stays open. -/
theorem closes_printed_open {ts : List Token} (hts : ∀ t ∈ ts, t.Proper) :
    closes true (printed ts) = false := by
  induction ts with
  | nil => rfl
  | cons t ts ih =>
    rw [List.forall_mem_cons] at hts
    rw [printed_cons]
    by_cases hliteral : ∃ text, t = .quoted text
    · rcases hliteral with ⟨text, rfl⟩
      rw [printed_quoted, List.cons_append, List.append_assoc, closes_quote, Bool.eq_false_iff]
      intro h
      have hopen : closes true (printed ts) = true := closes_of_open h
      rw [ih hts.2] at hopen
      cases hopen
    · rw [closes_token hts.1 fun text ht => hliteral ⟨text, ht⟩]
      exact ih hts.2

/-- The text of tokens tells whether a literal among them holds a backslash. -/
theorem closes_printed_iff {ts : List Token} (hts : ∀ t ∈ ts, t.Proper) :
    closes false (printed ts) = true ↔ Unescaped ts := by
  induction ts with
  | nil => exact ⟨fun _ => nofun, fun _ => rfl⟩
  | cons t ts ih =>
    rw [List.forall_mem_cons] at hts
    rw [printed_cons, unescaped_cons, ← ih hts.2]
    by_cases hliteral : ∃ text, t = .quoted text
    · rcases hliteral with ⟨text, rfl⟩
      have htext : (∀ text', Token.quoted text = .quoted text' → '\\' ∉ text'.toList) ↔
          '\\' ∉ text.toList :=
        ⟨fun h => h text rfl, fun h text' heq => Token.quoted.inj heq ▸ h⟩
      rw [printed_quoted, List.cons_append, List.append_assoc, closes_quote, htext]
      constructor
      · intro h
        refine (closes_of_escaped h).resolve_right fun hopen => ?_
        cases (closes_printed_open hts.2).symm.trans hopen
      · rintro ⟨hescape, h⟩
        exact (closes_escaped hescape).trans h
    · rw [closes_token hts.1 fun text ht => hliteral ⟨text, ht⟩]
      exact (and_iff_right fun text ht => absurd ⟨text, ht⟩ hliteral).symm

end Closes

end ClickHouse
end Ingest
