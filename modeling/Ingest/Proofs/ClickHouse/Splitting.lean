import Ingest.Proofs.ClickHouse.TypeTokens
import Ingest.Proofs.Outcome

/-!
# Splitting a text into tokens

`Splits` says, without scanning, of which tokens a text consists: blanks are left out, words and
numbers are as long as possible, and a backslash in a literal takes the next character as it is.
The scanner finds exactly these tokens (`scans_iff_splits`), so that a text has one list of tokens
at most.
-/

namespace Ingest
namespace ClickHouse

/-- A run of digits. -/
def isNumber (s : String) : Bool :=
  !s.toList.isEmpty && s.toList.all Text.isDigit

/-- A text as it is written between the quotes of a literal. -/
inductive Spells : List Char → List Char → Prop
  | nil : Spells [] []
  | plain {c : Char} {raw text : List Char} :
      c ≠ '\'' → c ≠ '\\' → Spells raw text → Spells (c :: raw) (c :: text)
  | escaped {c : Char} {raw text : List Char} :
      Spells raw text → Spells ('\\' :: c :: raw) (c :: text)

/-- A text consists of tokens. -/
inductive Splits : List Char → List Token → Prop
  | nil : Splits [] []
  | blank {c : Char} {cs : List Char} {ts : List Token} :
      Text.isBlank c = true → Splits cs ts → Splits (c :: cs) ts
  | opening {cs : List Char} {ts : List Token} : Splits cs ts → Splits ('(' :: cs) (.opening :: ts)
  | closing {cs : List Char} {ts : List Token} : Splits cs ts → Splits (')' :: cs) (.closing :: ts)
  | comma {cs : List Char} {ts : List Token} : Splits cs ts → Splits (',' :: cs) (.comma :: ts)
  | literal {raw cs : List Char} {text : String} {ts : List Token} :
      Spells raw text.toList → Splits cs ts →
        Splits ('\'' :: (raw ++ '\'' :: cs)) (.quoted text :: ts)
  | word {name : String} {cs : List Char} {ts : List Token} :
      isWord name = true → Breaks cs → Splits cs ts → Splits (name.toList ++ cs) (.word name :: ts)
  | number {digits : String} {cs : List Char} {ts : List Token} :
      isNumber digits = true → Breaks cs → Splits cs ts →
        Splits (digits.toList ++ cs) (.number digits :: ts)

/-! ## Literals -/

theorem spells_of_readLiteral {cs text rest : List Char}
    (h : readLiteral cs = some (text, rest)) :
    ∃ raw, cs = raw ++ '\'' :: rest ∧ Spells raw text := by
  induction cs using readLiteral.induct generalizing text with
  | case1 => simp [readLiteral] at h
  | case2 cs =>
    simp only [readLiteral, Option.some.injEq, Prod.mk.injEq] at h
    rcases h with ⟨rfl, rfl⟩
    exact ⟨[], rfl, .nil⟩
  | case3 c cs ih =>
    rw [readLiteral, Option.map_eq_some_iff] at h
    rcases h with ⟨r, hread, hr⟩
    cases hr
    rcases ih hread with ⟨raw, rfl, hspells⟩
    exact ⟨'\\' :: c :: raw, rfl, .escaped hspells⟩
  | case4 => simp [readLiteral] at h
  | case5 c cs hquote hescape hlast ih =>
    rw [readLiteral, Option.map_eq_some_iff] at h
    · rcases h with ⟨r, hread, hr⟩
      cases hr
      rcases ih hread with ⟨raw, rfl, hspells⟩
      refine ⟨c :: raw, rfl, .plain hquote ?_ hspells⟩
      -- A backslash would be followed by the quote at least.
      rintro rfl
      cases raw with
      | nil => exact hescape _ _ rfl rfl
      | cons d raw => exact hescape _ _ rfl rfl
    · exact hquote
    · exact hescape
    · exact hlast

theorem readLiteral_of_ne {c : Char} (hquote : c ≠ '\'') (hescape : c ≠ '\\') (cs : List Char) :
    readLiteral (c :: cs) = (readLiteral cs).map fun r => (c :: r.1, r.2) := by
  rw [readLiteral]
  · exact hquote
  · intro d rest hc
    exact absurd hc hescape
  · intro hc
    exact absurd hc hescape

theorem readLiteral_of_spells {raw text : List Char} (h : Spells raw text) (rest : List Char) :
    readLiteral (raw ++ '\'' :: rest) = some (text, rest) := by
  induction h with
  | nil => rw [List.nil_append, readLiteral]
  | plain hquote hescape _ ih =>
    rw [List.cons_append, readLiteral_of_ne hquote hescape, ih]
    rfl
  | escaped _ ih =>
    rw [List.cons_append, List.cons_append, readLiteral, ih]
    rfl

/-! ## Scanning -/

section Scanning

variable {total : Nat} {cs : List Char} {ts : List Token}

theorem Scans.blank {c : Char} (hc : Text.isBlank c = true) (h : Scans total cs ts) :
    Scans total (c :: cs) ts := by
  rcases h with ⟨ls, hscan, hls⟩
  refine ⟨ls, ?_, hls⟩
  rw [scan]
  simpa [hc] using hscan

theorem Scans.number {digits : String} (hdigits : isNumber digits = true) (hbreaks : Breaks cs)
    (h : Scans total cs ts) : Scans total (digits.toList ++ cs) (.number digits :: ts) := by
  simp only [isNumber, Bool.and_eq_true, Bool.not_eq_true', List.isEmpty_eq_false_iff] at hdigits
  have hrun : digits.toList.all Token.isWordChar = true := by
    apply List.all_eq_true.2
    intro c hc
    exact isWordChar_of_isDigit (List.all_eq_true.1 hdigits.2 c hc)
  have hscans := h.run hdigits.1 hrun hbreaks
  rwa [Token.ofRun, if_pos hdigits.2, String.ofList_toList] at hscans

theorem scans_of_splits (total : Nat) (h : Splits cs ts) : Scans total cs ts := by
  induction h with
  | nil => exact .nil
  | blank hc _ ih => exact ih.blank hc
  | opening _ ih => exact ih.opening
  | closing _ ih => exact ih.closing
  | comma _ ih => exact ih.comma
  | literal hspells _ ih =>
    have hscans := ih.literal (readLiteral_of_spells hspells _)
    rwa [String.ofList_toList] at hscans
  | word hname hbreaks _ ih => exact ih.word hname hbreaks
  | number hdigits hbreaks _ ih => exact ih.number hdigits hbreaks

theorem breaks_dropWhile (cs : List Char) : Breaks (cs.dropWhile Token.isWordChar) := by
  intro c hc
  have hhead := List.head?_dropWhile_not Token.isWordChar cs
  rw [Option.mem_def.1 hc] at hhead
  exact hhead

/-- A run of word characters is a word or a number. -/
theorem Splits.run {run : List Char} (hne : run ≠ []) (hrun : run.all Token.isWordChar = true)
    (hbreaks : Breaks cs) (h : Splits cs ts) : Splits (run ++ cs) (.ofRun run :: ts) := by
  unfold Token.ofRun
  split
  · rename_i hdigits
    have hnumber : isNumber (String.ofList run) = true := by
      simp [isNumber, hne, hdigits]
    simpa using Splits.number hnumber hbreaks h
  · rename_i hdigits
    have hword : isWord (String.ofList run) = true := by
      rw [isWord_ofList, hrun, Bool.eq_false_iff.2 hdigits]
      rfl
    simpa using Splits.word hword hbreaks h

theorem splits_of_scan {ls : List Lexeme} (h : scan total cs = .ok ls) :
    Splits cs (ls.map (·.token)) := by
  fun_induction scan total cs generalizing ls with
  | case1 =>
    cases h
    exact .nil
  | case2 =>
    rename_i hblank ih
    exact .blank hblank (ih h)
  | case3 =>
    rename_i ih
    rcases Outcome.map_eq_ok h with ⟨ls, hls, rfl⟩
    exact .opening (ih hls)
  | case4 =>
    rename_i ih
    rcases Outcome.map_eq_ok h with ⟨ls, hls, rfl⟩
    exact .closing (ih hls)
  | case5 =>
    rename_i ih
    rcases Outcome.map_eq_ok h with ⟨ls, hls, rfl⟩
    exact .comma (ih hls)
  | case6 => cases h
  | case7 cs r hread =>
    rename_i ih
    rcases Outcome.map_eq_ok h with ⟨ls, hls, rfl⟩
    rcases spells_of_readLiteral hread with ⟨raw, rfl, hspells⟩
    have htext : Spells raw (String.ofList r.1).toList := by simpa using hspells
    exact .literal htext (ih hls)
  | case8 c cs =>
    rename_i hword ih
    rcases Outcome.map_eq_ok h with ⟨ls, hls, rfl⟩
    have hrun : (c :: cs.takeWhile Token.isWordChar).all Token.isWordChar = true := by
      rw [List.all_cons, hword, List.all_takeWhile]
      rfl
    have hsplits := (ih hls).run (List.cons_ne_nil _ _) hrun (breaks_dropWhile cs)
    rwa [List.cons_append, List.takeWhile_append_dropWhile] at hsplits
  | case9 => cases h

/-- The scanner finds the tokens of which a text consists. -/
theorem scans_iff_splits (total : Nat) : Scans total cs ts ↔ Splits cs ts := by
  constructor
  · rintro ⟨ls, hscan, rfl⟩
    exact splits_of_scan hscan
  · exact scans_of_splits total

/-- A text consists of one list of tokens at most. -/
theorem Splits.unique {ts' : List Token} (h : Splits cs ts) (h' : Splits cs ts') : ts = ts' := by
  rcases scans_of_splits 0 h with ⟨ls, hscan, rfl⟩
  rcases scans_of_splits 0 h' with ⟨ls', hscan', rfl⟩
  cases hscan.symm.trans hscan'
  rfl

end Scanning

end ClickHouse
end Ingest
