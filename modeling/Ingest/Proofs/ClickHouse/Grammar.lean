import Ingest.Proofs.ClickHouse.Splitting

/-!
# The grammar of type names

`Derives` says which lists of tokens are types, and which types they are. The reader accepts a text
exactly if it splits into tokens from which a type derives (`parse_accepts_grammar`).
-/

namespace Ingest
namespace ClickHouse

/-! ## The grammar -/

/-- A name with tokens in parentheses behind it. -/
def applied (name : String) (inner : List Token) : List Token :=
  .word name :: .opening :: (inner ++ [.closing])

/-- The names whose parameters are types, columns or those of a timestamp. -/
def keywords : List String :=
  ["Array", "Nullable", "LowCardinality", "Nested", "DateTime64"]

/-- Every parenthesis that is opened is closed, and no other. -/
inductive Balanced : List Token → Prop
  | nil : Balanced []
  | token {t : Token} {ts : List Token} :
      t ≠ .opening → t ≠ .closing → Balanced ts → Balanced (t :: ts)
  | group {inner ts : List Token} :
      Balanced inner → Balanced ts → Balanced (.opening :: (inner ++ .closing :: ts))

mutual

/-- A type derives from tokens. -/
inductive Derives : List Token → TypeName → Prop
  | named (name : String) : Derives [.word name] (.named name)
  | array {ts : List Token} {t : TypeName} :
      Derives ts t → Derives (applied "Array" ts) (.array t)
  | nullable {ts : List Token} {t : TypeName} :
      Derives ts t → Derives (applied "Nullable" ts) (.nullable t)
  | lowCardinality {ts : List Token} {t : TypeName} :
      Derives ts t → Derives (applied "LowCardinality" ts) (.lowCardinality t)
  | nested {ts : List Token} {columns : List (String × TypeName)} :
      DerivesColumns ts columns → Derives (applied "Nested" ts) (.nested columns)
  | dateTime64 {digits : String} :
      Text.ofDigits digits.toList ≤ 255 →
        Derives (applied "DateTime64" [.number digits])
          (.dateTime64 (Text.ofDigits digits.toList) none)
  | dateTime64Zone {digits zone : String} :
      Text.ofDigits digits.toList ≤ 255 →
        Derives (applied "DateTime64" [.number digits, .comma, .quoted zone])
          (.dateTime64 (Text.ofDigits digits.toList) (some zone))
  | other {name : String} {inner : List Token} :
      name ∉ keywords → Balanced inner →
        Derives (applied name inner) (.other (TypeName.otherText name inner))

/-- One or more columns derive from tokens. -/
inductive DerivesColumns : List Token → List (String × TypeName) → Prop
  | last {name : String} {ts : List Token} {t : TypeName} :
      Derives ts t → DerivesColumns (.word name :: ts) [(name, t)]
  | cons {name : String} {ts rest : List Token} {t : TypeName}
      {columns : List (String × TypeName)} :
      Derives ts t → DerivesColumns rest columns →
        DerivesColumns (.word name :: (ts ++ .comma :: rest)) ((name, t) :: columns)

end

/-! ## Balanced parentheses -/

/-- Tokens close a number of open parentheses and are balanced otherwise. -/
def Unwinds : Nat → List Token → Prop
  | 0, ts => Balanced ts
  | depth + 1, ts =>
    ∃ inner rest, Balanced inner ∧ ts = inner ++ .closing :: rest ∧ Unwinds depth rest

theorem Unwinds.token {depth : Nat} {t : Token} {ts : List Token} (hopening : t ≠ .opening)
    (hclosing : t ≠ .closing) (h : Unwinds depth ts) : Unwinds depth (t :: ts) := by
  cases depth with
  | zero => exact Balanced.token hopening hclosing h
  | succ depth =>
    rcases h with ⟨inner, rest, hinner, rfl, hrest⟩
    exact ⟨t :: inner, rest, .token hopening hclosing hinner, rfl, hrest⟩

/-- An opening parenthesis makes the first of those that are closed its own. -/
theorem Unwinds.opening {depth : Nat} {ts : List Token} (h : Unwinds (depth + 1) ts) :
    Unwinds depth (.opening :: ts) := by
  rcases h with ⟨inner, rest, hinner, rfl, hrest⟩
  cases depth with
  | zero => exact .group hinner hrest
  | succ depth =>
    rcases hrest with ⟨inner', rest', hinner', rfl, hrest'⟩
    exact ⟨.opening :: (inner ++ .closing :: inner'), rest', .group hinner hinner', by simp, hrest'⟩

namespace TypeName

variable {total : Nat}

theorem unwinds_of_parseBalanced {depth : Nat} {inner : List Token} {tokens rest : List Lexeme}
    (h : parseBalanced total depth tokens = .ok (inner, rest)) :
    Unwinds depth inner ∧ ∃ used o, tokens = used ++ ⟨o, .closing⟩ :: rest ∧
      used.map (·.token) = inner := by
  fun_induction parseBalanced total depth tokens generalizing inner with
  | case1 => cases h
  | case2 o tokens =>
    cases h
    exact ⟨.nil, [], o, rfl, rfl⟩
  | case3 o tokens d ih =>
    rcases Outcome.map_eq_ok h with ⟨r, hr, heq⟩
    cases heq
    rcases ih hr with ⟨hunwinds, used, o', rfl, hused⟩
    exact ⟨⟨[], r.1, .nil, rfl, hunwinds⟩, ⟨o, .closing⟩ :: used, o', rfl, by simp [hused]⟩
  | case4 depth o tokens ih =>
    rcases Outcome.map_eq_ok h with ⟨r, hr, heq⟩
    cases heq
    rcases ih hr with ⟨hunwinds, used, o', rfl, hused⟩
    exact ⟨hunwinds.opening, ⟨o, .opening⟩ :: used, o', rfl, by simp [hused]⟩
  | case5 depth o t tokens hclosing hopening ih =>
    rcases Outcome.map_eq_ok h with ⟨r, hr, heq⟩
    cases heq
    rcases ih hr with ⟨hunwinds, used, o', rfl, hused⟩
    exact ⟨hunwinds.token hopening hclosing, ⟨o, t⟩ :: used, o', rfl, by simp [hused]⟩

/-- Balanced tokens are collected, whatever the depth at which they stand. -/
theorem parseBalanced_of_balanced {ts : List Token} (h : Balanced ts) {depth : Nat}
    {ls : List Lexeme} (rest : List Lexeme) (hls : ls.map (·.token) = ts) :
    parseBalanced total depth (ls ++ rest) =
      (parseBalanced total depth rest).map fun r => (ts ++ r.1, r.2) := by
  induction h generalizing depth ls rest with
  | nil =>
    cases List.map_eq_nil_iff.1 hls
    rw [List.nil_append]
    cases parseBalanced total depth rest <;> rfl
  | token hopening hclosing _ ih =>
    rcases List.map_eq_cons_iff.1 hls with ⟨⟨o, t⟩, ls, rfl, rfl, htail⟩
    rw [List.cons_append, parseBalanced, ih rest htail]
    · cases parseBalanced total depth rest <;> rfl
    · exact hclosing
    · exact hopening
  | group _ _ ihinner ih =>
    rcases List.map_eq_cons_iff.1 hls with ⟨⟨o, t⟩, ls, rfl, ht, hls⟩
    rcases List.map_eq_append_iff.1 hls with ⟨ls₁, ls₂, rfl, hinner, hls⟩
    rcases List.map_eq_cons_iff.1 hls with ⟨⟨o', t'⟩, ls₃, rfl, ht', hrest⟩
    cases ht
    cases ht'
    -- The group lies one level deeper, up to the parenthesis that closes it.
    rw [List.cons_append, parseBalanced, List.append_assoc, ihinner _ hinner, List.cons_append,
      parseBalanced, ih rest hrest]
    cases parseBalanced total depth rest <;> simp [Except.map]

/-! ## What is read derives -/

/-- Something derives from the tokens in front of what is left. -/
def Consumes {α : Type} (D : List Token → α → Prop) (tokens : List Lexeme) (r : α × List Lexeme) :
    Prop :=
  ∃ used, tokens = used ++ r.2 ∧ D (used.map (·.token)) r.1

theorem parseClosing_eq_ok {α : Type} {a b : α} {tokens rest : List Lexeme}
    (h : parseClosing total a tokens = .ok (b, rest)) :
    b = a ∧ ∃ o, tokens = ⟨o, .closing⟩ :: rest := by
  unfold parseClosing at h
  split at h
  · cases h
    exact ⟨rfl, _, rfl⟩
  · cases h

/-- What is read in parentheses behind a name derives with the name. -/
theorem consumes_applied {α : Type} {D : List Token → α → Prop} {make : α → TypeName}
    {name : String} {o o' : Nat} {tokens : List Lexeme}
    {inner : Except ParseFault (α × List Lexeme)} {r : TypeName × List Lexeme}
    (hinner : ∀ q, inner = .ok q → Consumes D tokens q)
    (hmake : ∀ ts a, D ts a → Derives (applied name ts) (make a))
    (h : (inner.bind fun q => parseClosing total (make q.1) q.2) = .ok r) :
    Consumes Derives (⟨o, .word name⟩ :: ⟨o', .opening⟩ :: tokens) r := by
  rcases Outcome.bind_eq_ok h with ⟨⟨a, left⟩, ha, hclosing⟩
  rcases hinner _ ha with ⟨used, rfl, hderives⟩
  rcases parseClosing_eq_ok hclosing with ⟨hr, o'', hleft⟩
  simp only at hleft hderives
  refine ⟨⟨o, .word name⟩ :: ⟨o', .opening⟩ :: (used ++ [⟨o'', .closing⟩]), by simp [hleft], ?_⟩
  rw [hr]
  simpa [applied] using hmake _ a hderives

theorem consumes_of_parseDateTime64 {opening : Nat} {tokens : List Lexeme}
    {r : TypeName × List Lexeme} (h : parseDateTime64 total opening tokens = .ok r) :
    Consumes (fun ts t => Derives (applied "DateTime64" ts) t) tokens r := by
  unfold parseDateTime64 at h
  split at h
  · rename_i o digits tokens
    simp only at h
    split at h
    · rename_i hprecision
      split at h
      · rename_i comma tokens
        unfold parseZone at h
        split at h
        · rename_i o' zone tokens
          cases h
          exact ⟨[⟨o, .number digits⟩, ⟨comma, .comma⟩, ⟨o', .quoted zone⟩], rfl,
            .dateTime64Zone hprecision⟩
        · cases h
        · cases h
      · cases h
        exact ⟨[⟨o, .number digits⟩], rfl, .dateTime64 hprecision⟩
    · cases h
  · cases h
  · cases h

theorem consumes_of_parseBalanced {name : String} {o o' : Nat} {inner : List Token}
    {tokens rest : List Lexeme} (hname : name ∉ keywords)
    (h : parseBalanced total 0 tokens = .ok (inner, rest)) :
    Consumes Derives (⟨o, .word name⟩ :: ⟨o', .opening⟩ :: tokens)
      (other (otherText name inner), rest) := by
  rcases unwinds_of_parseBalanced h with ⟨hbalanced, used, o'', rfl, rfl⟩
  refine ⟨⟨o, .word name⟩ :: ⟨o', .opening⟩ :: (used ++ [⟨o'', .closing⟩]), by simp, ?_⟩
  have hderives := Derives.other hname hbalanced
  simpa [applied] using hderives

/-- What the reader makes of tokens derives from them. -/
theorem consumes_of_reader (total fuel : Nat) :
    (∀ tokens r, parseType total fuel tokens = .ok r → Consumes Derives tokens r) ∧
    (∀ tokens r, parseColumns total fuel tokens = .ok r → Consumes DerivesColumns tokens r) := by
  induction fuel with
  | zero =>
    constructor
    · intro tokens r h
      rw [parseType] at h
      cases h
      all_goals nofun
    · intro tokens r h
      rw [parseColumns] at h
      cases h
      all_goals nofun
  | succ fuel ih =>
    rcases ih with ⟨ihType, ihColumns⟩
    constructor
    · intro tokens r h
      unfold parseType at h
      split at h
      · rename_i fuel' o name opening inner heq
        cases heq
        -- The name before the parenthesis decides what is read between the parentheses.
        split_ifs at h with harray hnullable hlow hnested htime
        · exact harray ▸ consumes_applied (ihType inner) (fun _ _ => .array) h
        · exact hnullable ▸ consumes_applied (ihType inner) (fun _ _ => .nullable) h
        · exact hlow ▸ consumes_applied (ihType inner) (fun _ _ => .lowCardinality) h
        · exact hnested ▸ consumes_applied (ihColumns inner) (fun _ _ => .nested) h
        · subst htime
          -- The parameters are read together with the type that they make.
          have hmake (ts : List Token) (t : TypeName) (ht : Derives (applied "DateTime64" ts) t) :
              Derives (applied "DateTime64" ts) (id t) := ht
          exact consumes_applied (fun _ => consumes_of_parseDateTime64) hmake h
        · rcases Outcome.bind_eq_ok h with ⟨⟨kept, rest⟩, hkept, h⟩
          cases h
          have hname : name ∉ keywords := by
            simp [keywords, harray, hnullable, hlow, hnested, htime]
          exact consumes_of_parseBalanced hname hkept
      · rename_i fuel' o name rest _ _
        cases h
        exact ⟨[⟨o, .word name⟩], rfl, .named name⟩
      · cases h
    · intro tokens r h
      unfold parseColumns at h
      split at h
      · rename_i fuel' o name inner heq
        cases heq
        rcases Outcome.bind_eq_ok h with ⟨⟨t, left⟩, ht, hnext⟩
        rcases ihType inner _ ht with ⟨used, rfl, hderives⟩
        simp only at hnext
        split at hnext
        · rename_i o' left
          rcases Outcome.bind_eq_ok hnext with ⟨⟨columns, left'⟩, hcolumns, hlast⟩
          rcases ihColumns left _ hcolumns with ⟨used', rfl, hderives'⟩
          cases hlast
          refine ⟨⟨o, .word name⟩ :: (used ++ ⟨o', .comma⟩ :: used'), by simp, ?_⟩
          simpa using DerivesColumns.cons hderives hderives'
        · cases hnext
          exact ⟨⟨o, .word name⟩ :: used, rfl, .last hderives⟩
      · cases h

/-! ## What derives is read -/

/-- A list of tokens does not begin with a certain one. -/
def StartsWithout (t : Token) (tokens : List Lexeme) : Prop :=
  ∀ l ∈ tokens.head?, l.token ≠ t

theorem startsWithout_cons {t t' : Token} (h : t' ≠ t) (o : Nat) (tokens : List Lexeme) :
    StartsWithout t (⟨o, t'⟩ :: tokens) := by
  intro l hl
  have hl : ⟨o, t'⟩ = l := by simpa using hl
  exact hl ▸ h

section Steps

variable {fuel o o' : Nat} {tokens : List Lexeme}

/-- The name before a parenthesis decides what is read between the parentheses. -/
theorem parseType_applied {name : String} :
    parseType total (fuel + 1) (⟨o, .word name⟩ :: ⟨o', .opening⟩ :: tokens) =
      if name = "Array" then
        (parseType total fuel tokens).bind fun r => parseClosing total (array r.1) r.2
      else if name = "Nullable" then
        (parseType total fuel tokens).bind fun r => parseClosing total (nullable r.1) r.2
      else if name = "LowCardinality" then
        (parseType total fuel tokens).bind fun r => parseClosing total (lowCardinality r.1) r.2
      else if name = "Nested" then
        (parseColumns total fuel tokens).bind fun r => parseClosing total (nested r.1) r.2
      else if name = "DateTime64" then
        (parseDateTime64 total o' tokens).bind fun r => parseClosing total r.1 r.2
      else
        (parseBalanced total 0 tokens).bind fun r => .ok (other (otherText name r.1), r.2) := by
  rw [parseType]
  rfl

theorem parseType_array :
    parseType total (fuel + 1) (⟨o, .word "Array"⟩ :: ⟨o', .opening⟩ :: tokens) =
      (parseType total fuel tokens).bind fun r => parseClosing total (array r.1) r.2 := by
  rw [parseType_applied, if_pos rfl]

theorem parseType_nullable :
    parseType total (fuel + 1) (⟨o, .word "Nullable"⟩ :: ⟨o', .opening⟩ :: tokens) =
      (parseType total fuel tokens).bind fun r => parseClosing total (nullable r.1) r.2 := by
  rw [parseType_applied, if_neg (by decide), if_pos rfl]

theorem parseType_lowCardinality :
    parseType total (fuel + 1) (⟨o, .word "LowCardinality"⟩ :: ⟨o', .opening⟩ :: tokens) =
      (parseType total fuel tokens).bind fun r => parseClosing total (lowCardinality r.1) r.2 := by
  rw [parseType_applied, if_neg (by decide), if_neg (by decide), if_pos rfl]

theorem parseType_nested :
    parseType total (fuel + 1) (⟨o, .word "Nested"⟩ :: ⟨o', .opening⟩ :: tokens) =
      (parseColumns total fuel tokens).bind fun r => parseClosing total (nested r.1) r.2 := by
  rw [parseType_applied, if_neg (by decide), if_neg (by decide), if_neg (by decide), if_pos rfl]

theorem parseType_dateTime64 :
    parseType total (fuel + 1) (⟨o, .word "DateTime64"⟩ :: ⟨o', .opening⟩ :: tokens) =
      (parseDateTime64 total o' tokens).bind fun r => parseClosing total r.1 r.2 := by
  rw [parseType_applied, if_neg (by decide), if_neg (by decide), if_neg (by decide),
    if_neg (by decide), if_pos rfl]

theorem parseType_other {name : String} (hname : name ∉ keywords) :
    parseType total (fuel + 1) (⟨o, .word name⟩ :: ⟨o', .opening⟩ :: tokens) =
      (parseBalanced total 0 tokens).bind fun r => .ok (other (otherText name r.1), r.2) := by
  simp only [keywords, List.mem_cons, List.not_mem_nil, or_false, not_or] at hname
  rcases hname with ⟨harray, hnullable, hlow, hnested, htime⟩
  rw [parseType_applied, if_neg harray, if_neg hnullable, if_neg hlow, if_neg hnested,
    if_neg htime]

/-- A zone is read where a comma stands behind the number. -/
theorem parseDateTime64_number {digits : String} (h : Text.ofDigits digits.toList ≤ 255) :
    parseDateTime64 total o (⟨o', .number digits⟩ :: tokens) =
      match tokens with
      | ⟨comma, .comma⟩ :: rest => parseZone total comma (Text.ofDigits digits.toList) rest
      | rest => .ok (dateTime64 (Text.ofDigits digits.toList) none, rest) :=
  if_pos h

theorem parseType_named {name : String} (h : StartsWithout .opening tokens) :
    parseType total (fuel + 1) (⟨o, .word name⟩ :: tokens) = .ok (named name, tokens) := by
  rw [parseType]
  rintro o' rest rfl
  exact h _ rfl rfl

/-- Columns go on behind a comma. -/
theorem parseColumns_word {name : String} :
    parseColumns total (fuel + 1) (⟨o, .word name⟩ :: tokens) =
      (parseType total fuel tokens).bind fun r =>
        match r.2 with
        | ⟨_, .comma⟩ :: rest =>
          (parseColumns total fuel rest).bind fun q => .ok ((name, r.1) :: q.1, q.2)
        | rest => .ok ([(name, r.1)], rest) := by
  rw [parseColumns]
  rfl

theorem parseColumns_cons {name : String} {t : TypeName} {rest : List Lexeme}
    {columns : List (String × TypeName)} {rest' : List Lexeme}
    (ht : parseType total fuel tokens = .ok (t, ⟨o', .comma⟩ :: rest))
    (hcolumns : parseColumns total fuel rest = .ok (columns, rest')) :
    parseColumns total (fuel + 1) (⟨o, .word name⟩ :: tokens) =
      .ok ((name, t) :: columns, rest') := by
  rw [parseColumns_word, ht]
  simp only [Except.bind, hcolumns]

theorem parseColumns_singleton {name : String} {t : TypeName} {rest : List Lexeme}
    (ht : parseType total fuel tokens = .ok (t, rest))
    (hrest : StartsWithout .comma rest) :
    parseColumns total (fuel + 1) (⟨o, .word name⟩ :: tokens) = .ok ([(name, t)], rest) := by
  rw [parseColumns_word, ht]
  simp only [Except.bind]
  split
  · exact absurd rfl (hrest _ rfl)
  · rfl

/-- The tokens in parentheses behind a name; they are fewer than all by more than one. -/
theorem lexemes_of_applied {ls : List Lexeme} {name : String} {ts : List Token}
    (h : ls.map (·.token) = applied name ts) (hfuel : ls.length < fuel + 1) :
    ∃ o o' inner o'', ls = ⟨o, .word name⟩ :: ⟨o', .opening⟩ :: (inner ++ [⟨o'', .closing⟩]) ∧
      inner.map (·.token) = ts ∧ inner.length < fuel := by
  rcases List.map_eq_cons_iff.1 h with ⟨⟨o, t⟩, ls₁, rfl, ht, h⟩
  rcases List.map_eq_cons_iff.1 h with ⟨⟨o', t'⟩, ls₂, rfl, ht', h⟩
  rcases List.map_eq_append_iff.1 h with ⟨inner, last, rfl, hinner, hlast⟩
  rcases List.map_eq_singleton_iff.1 hlast with ⟨⟨o'', t''⟩, rfl, ht''⟩
  cases ht
  cases ht'
  cases ht''
  refine ⟨o, o', inner, o'', rfl, hinner, ?_⟩
  simp only [List.length_cons, List.length_append] at hfuel
  omega

end Steps

mutual

/-- A type is read from the tokens from which it derives, up to what cannot belong to it. -/
theorem parseType_of_derives {ts : List Token} {t : TypeName} (h : Derives ts t) (total fuel : Nat)
    (ls rest : List Lexeme) (hls : ls.map (·.token) = ts) (hfuel : ls.length < fuel)
    (hrest : StartsWithout .opening rest) :
    parseType total fuel (ls ++ rest) = .ok (t, rest) := by
  cases fuel with
  | zero => exact absurd hfuel (Nat.not_lt_zero _)
  | succ fuel =>
    match h with
    | .named name =>
      rcases List.map_eq_singleton_iff.1 hls with ⟨⟨o, t⟩, rfl, rfl⟩
      exact parseType_named hrest
    | .array hinner =>
      rcases lexemes_of_applied hls hfuel with ⟨o, o', inner, o'', rfl, htokens, hless⟩
      have hread := parseType_of_derives hinner total fuel inner (⟨o'', .closing⟩ :: rest) htokens
        hless (startsWithout_cons (by decide) _ _)
      simp only [List.cons_append, List.append_assoc, List.nil_append]
      rw [parseType_array, hread]
      rfl
    | .nullable hinner =>
      rcases lexemes_of_applied hls hfuel with ⟨o, o', inner, o'', rfl, htokens, hless⟩
      have hread := parseType_of_derives hinner total fuel inner (⟨o'', .closing⟩ :: rest) htokens
        hless (startsWithout_cons (by decide) _ _)
      simp only [List.cons_append, List.append_assoc, List.nil_append]
      rw [parseType_nullable, hread]
      rfl
    | .lowCardinality hinner =>
      rcases lexemes_of_applied hls hfuel with ⟨o, o', inner, o'', rfl, htokens, hless⟩
      have hread := parseType_of_derives hinner total fuel inner (⟨o'', .closing⟩ :: rest) htokens
        hless (startsWithout_cons (by decide) _ _)
      simp only [List.cons_append, List.append_assoc, List.nil_append]
      rw [parseType_lowCardinality, hread]
      rfl
    | .nested hcolumns =>
      rcases lexemes_of_applied hls hfuel with ⟨o, o', inner, o'', rfl, htokens, hless⟩
      have hread := parseColumns_of_derives hcolumns total fuel inner (⟨o'', .closing⟩ :: rest)
        htokens hless (startsWithout_cons (by decide) _ _) (startsWithout_cons (by decide) _ _)
      simp only [List.cons_append, List.append_assoc, List.nil_append]
      rw [parseType_nested, hread]
      rfl
    | .dateTime64 hprecision =>
      rcases lexemes_of_applied hls hfuel with ⟨o, o', inner, o'', rfl, htokens, -⟩
      rcases List.map_eq_singleton_iff.1 htokens with ⟨⟨o₁, t⟩, rfl, rfl⟩
      simp only [List.cons_append, List.nil_append]
      rw [parseType_dateTime64, parseDateTime64_number hprecision]
      rfl
    | .dateTime64Zone hprecision =>
      rcases lexemes_of_applied hls hfuel with ⟨o, o', inner, o'', rfl, htokens, -⟩
      rcases List.map_eq_cons_iff.1 htokens with ⟨⟨o₁, t₁⟩, inner, rfl, rfl, hcomma⟩
      rcases List.map_eq_cons_iff.1 hcomma with ⟨⟨o₂, t₂⟩, inner, rfl, rfl, hzone⟩
      rcases List.map_eq_singleton_iff.1 hzone with ⟨⟨o₃, t₃⟩, rfl, rfl⟩
      simp only [List.cons_append, List.nil_append]
      rw [parseType_dateTime64, parseDateTime64_number hprecision]
      rfl
    | .other hname hbalanced =>
      rcases lexemes_of_applied hls hfuel with ⟨o, o', inner, o'', rfl, htokens, -⟩
      simp only [List.cons_append, List.append_assoc, List.nil_append]
      rw [parseType_other hname, parseBalanced_of_balanced hbalanced _ htokens, parseBalanced]
      simp [Except.map, Except.bind]

theorem parseColumns_of_derives {ts : List Token} {columns : List (String × TypeName)}
    (h : DerivesColumns ts columns) (total fuel : Nat) (ls rest : List Lexeme)
    (hls : ls.map (·.token) = ts) (hfuel : ls.length < fuel)
    (hopening : StartsWithout .opening rest) (hcomma : StartsWithout .comma rest) :
    parseColumns total fuel (ls ++ rest) = .ok (columns, rest) := by
  cases fuel with
  | zero => exact absurd hfuel (Nat.not_lt_zero _)
  | succ fuel =>
    match h with
    | .last htype =>
      rcases List.map_eq_cons_iff.1 hls with ⟨⟨o, t⟩, inner, rfl, rfl, hinner⟩
      have hread := parseType_of_derives htype total fuel inner rest hinner
        (Nat.lt_of_succ_lt_succ hfuel) hopening
      exact parseColumns_singleton hread hcomma
    | .cons htype hcolumns =>
      rcases List.map_eq_cons_iff.1 hls with ⟨⟨o, t⟩, ls₁, rfl, rfl, h₁⟩
      rcases List.map_eq_append_iff.1 h₁ with ⟨inner, ls₂, rfl, hinner, h₂⟩
      rcases List.map_eq_cons_iff.1 h₂ with ⟨⟨o', t'⟩, ls₃, rfl, rfl, hothers⟩
      simp only [List.length_cons, List.length_append] at hfuel
      -- The comma ends the type; what follows it is the rest of the columns.
      have hread := parseType_of_derives htype total fuel inner (⟨o', .comma⟩ :: (ls₃ ++ rest))
        hinner (by omega) (startsWithout_cons (by decide) _ _)
      have hreads := parseColumns_of_derives hcolumns total fuel ls₃ rest hothers (by omega)
        hopening hcomma
      simp only [List.cons_append, List.append_assoc]
      exact parseColumns_cons hread hreads

end

/-! ## Texts -/

/-- A text that is read is scanned, and its tokens are read; only failures tell of the text. -/
theorem parse_eq_ok {s : String} {t : TypeName} (h : parse s = .ok t) :
    ∃ ls, scan (byteSize s.toList) s.toList = .ok ls ∧
      ofTokens (byteSize s.toList) ls = .ok t := by
  unfold parse at h
  simp only at h
  cases hscan : scan (byteSize s.toList) s.toList with
  | error e =>
    rw [hscan] at h
    cases h
  | ok ls =>
    rw [hscan] at h
    refine ⟨ls, rfl, ?_⟩
    change (ofTokens (byteSize s.toList) ls).mapError (ParseFailure.mk s) = .ok t at h
    cases hread : ofTokens (byteSize s.toList) ls with
    | error e =>
      rw [hread] at h
      cases h
    | ok t' =>
      rw [hread] at h
      cases h
      rfl

/-- A type that is read derives from the tokens of the text. -/
theorem derives_of_parse {s : String} {t : TypeName} (h : parse s = .ok t) :
    ∃ ts, Splits s.toList ts ∧ Derives ts t := by
  rcases parse_eq_ok h with ⟨ls, hscan, hread⟩
  rcases Outcome.bind_eq_ok hread with ⟨⟨t', rest⟩, ht', hend⟩
  rcases (consumes_of_reader _ _).1 ls _ ht' with ⟨used, hused, hderives⟩
  simp only at hend hused
  split at hend
  · rename_i hrest
    cases hend
    rw [List.isEmpty_iff.1 hrest, List.append_nil] at hused
    exact ⟨ls.map (·.token), splits_of_scan hscan, hused ▸ hderives⟩
  · cases hend

/-- A type that derives from the tokens of a text is read from it. -/
theorem parse_of_derives {s : String} {ts : List Token} {t : TypeName} (hs : Splits s.toList ts)
    (ht : Derives ts t) : parse s = .ok t := by
  rcases scans_of_splits (byteSize s.toList) hs with ⟨ls, hscan, hls⟩
  -- As much fuel as there are tokens is enough.
  have hread := parseType_of_derives ht (byteSize s.toList) (ls.length + 1) ls [] hls
    (Nat.lt_succ_self _) nofun
  rw [List.append_nil] at hread
  rw [parse, hscan]
  simp only [Except.bind, ofTokens, hread]
  rfl

/-- A text is read as a type exactly if it splits into tokens from which the type derives. -/
theorem parse_accepts_grammar (s : String) (t : TypeName) :
    parse s = .ok t ↔ ∃ ts, Splits s.toList ts ∧ Derives ts t := by
  constructor
  · exact derives_of_parse
  · rintro ⟨ts, hs, ht⟩
    exact parse_of_derives hs ht

end TypeName
end ClickHouse
end Ingest
