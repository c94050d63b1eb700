import Mathlib.Data.List.Forall2

/-!
# Computations that succeed

What a chain of steps that succeeded says about each step.
-/

namespace Ingest
namespace Outcome

variable {ε α β : Type}

theorem bind_eq_ok {x : Except ε α} {f : α → Except ε β} {b : β} (h : x >>= f = .ok b) :
    ∃ a, x = .ok a ∧ f a = .ok b := by
  cases x with
  | error e => cases h
  | ok a => exact ⟨a, rfl, h⟩

theorem map_eq_ok {x : Except ε α} {f : α → β} {b : β} (h : x.map f = .ok b) :
    ∃ a, x = .ok a ∧ f a = b := by
  cases x with
  | error e => cases h
  | ok a => exact ⟨a, rfl, Except.ok.inj h⟩

theorem bind_eq_error {x : Except ε α} {f : α → Except ε β} {e : ε}
    (h : x >>= f = .error e) : x = .error e ∨ ∃ a, x = .ok a ∧ f a = .error e := by
  cases x with
  | error e' =>
    left
    cases h
    rfl
  | ok a => exact .inr ⟨a, rfl, h⟩

theorem map_eq_error {x : Except ε α} {f : α → β} {e : ε} (h : x.map f = .error e) :
    x = .error e := by
  cases x with
  | error e' =>
    cases h
    rfl
  | ok a => cases h

theorem map_ok (a : α) (f : α → β) : (Except.ok a : Except ε α).map f = .ok (f a) := rfl

/-- A list of computations succeeds if each does. -/
theorem mapM_eq_ok_iff {f : α → Except ε β} {as : List α} {bs : List β} :
    as.mapM f = .ok bs ↔ List.Forall₂ (fun a b => f a = .ok b) as bs := by
  induction as generalizing bs with
  | nil =>
    rw [List.mapM_nil, List.forall₂_nil_left_iff]
    constructor
    · intro h
      exact (Except.ok.inj h).symm
    · rintro rfl
      rfl
  | cons a rest ih =>
    rw [List.mapM_cons]
    constructor
    · intro h
      rcases bind_eq_ok h with ⟨b, hb, h⟩
      rcases bind_eq_ok h with ⟨bs', hbs', h⟩
      cases h
      exact .cons hb (ih.1 hbs')
    · rintro (_ | ⟨hb, hrest⟩)
      rw [hb, ih.2 hrest]
      rfl

theorem mapM_eq_ok_iff_map {f : α → Except ε β} {as : List α} {bs : List β} :
    as.mapM f = .ok bs ↔ as.map f = bs.map .ok := by
  rw [mapM_eq_ok_iff, ← List.forall₂_eq_eq_eq, List.forall₂_map_left_iff,
    List.forall₂_map_right_iff]

/-- If each of many computations succeeds there are results of all. -/
theorem exists_results {os : List (Except ε α)} (h : ∀ o ∈ os, ∃ a, o = .ok a) :
    ∃ as : List α, os = as.map .ok := by
  induction os with
  | nil => exact ⟨[], rfl⟩
  | cons o rest ih =>
    rcases h o List.mem_cons_self with ⟨a, rfl⟩
    rcases ih fun o' ho' => h o' (List.mem_cons_of_mem _ ho') with ⟨as, rfl⟩
    exact ⟨a :: as, rfl⟩

/-- A list of computations fails as the first one does that fails. -/
theorem exists_first_of_mapM {f : α → Except ε β} {as : List α} {e : ε}
    (h : as.mapM f = .error e) :
    ∃ before a, before ++ [a] <+: as ∧ (∀ a' ∈ before, ∃ b, f a' = .ok b) ∧ f a = .error e := by
  induction as with
  | nil => cases h
  | cons a rest ih =>
    rw [List.mapM_cons] at h
    rcases bind_eq_error h with ha | ⟨b, hb, h⟩
    · exact ⟨[], a, ⟨rest, rfl⟩, List.forall_mem_nil _, ha⟩
    · rcases bind_eq_error h with hrest | ⟨bs, -, h⟩
      · rcases ih hrest with ⟨before, a', hprefix, hbefore, hfail⟩
        have hprefix' : a :: before ++ [a'] <+: a :: rest := List.cons_prefix_cons.2 ⟨rfl, hprefix⟩
        exact ⟨a :: before, a', hprefix', List.forall_mem_cons.2 ⟨⟨b, hb⟩, hbefore⟩, hfail⟩
      · cases h

theorem mapM_eq_error {f : α → Except ε β} {as : List α} {e : ε}
    (h : as.mapM f = .error e) : ∃ a ∈ as, f a = .error e := by
  rcases exists_first_of_mapM h with ⟨before, a, hprefix, -, hfail⟩
  exact ⟨a, hprefix.subset List.mem_concat_self, hfail⟩

/-- What comes before the first one that fails does not matter. -/
theorem mapM_of_first_error {f : α → Except ε β} {before after : List α} {a : α} {e : ε}
    (hbefore : ∀ a ∈ before, ∃ b, f a = .ok b) (ha : f a = .error e) :
    (before ++ a :: after).mapM f = .error e := by
  induction before with
  | nil =>
    rw [List.nil_append, List.mapM_cons, ha]
    rfl
  | cons first before ih =>
    rcases hbefore first List.mem_cons_self with ⟨b, hb⟩
    rw [List.cons_append, List.mapM_cons, hb,
      ih fun a ha => hbefore a (List.mem_cons_of_mem first ha)]
    rfl

theorem mapM_congr {f g : α → Except ε β} {as : List α} (h : ∀ a ∈ as, f a = g a) :
    as.mapM f = as.mapM g := by
  induction as with
  | nil => rfl
  | cons a rest ih =>
    rw [List.mapM_cons, List.mapM_cons, h a List.mem_cons_self,
      ih fun a' ha' => h a' (List.mem_cons_of_mem a ha')]

/-- A list of checks passes if each does. -/
theorem forM_eq_ok {f : α → Except ε Unit} {as : List α} (h : as.forM f = .ok ()) :
    ∀ a ∈ as, f a = .ok () := by
  induction as with
  | nil => nofun
  | cons a rest ih =>
    rcases bind_eq_ok h with ⟨u, ha, hrest⟩
    exact List.forall_mem_cons.2 ⟨ha, ih hrest⟩

/-- Results can be changed one by one or all at the end. -/
theorem map_mapM {γ : Type} (f : α → Except ε β) (g : β → γ) (as : List α) :
    (as.mapM f).map (List.map g) = as.mapM fun a => (f a).map g := by
  induction as with
  | nil => rfl
  | cons a rest ih =>
    rw [List.mapM_cons, List.mapM_cons, ← ih]
    cases f a with
    | error e => rfl
    | ok b => cases rest.mapM f <;> rfl

/-! ## Results one by one -/

/-- Every result is the result of something. -/
theorem exists_of_forall₂ {R : α → β → Prop} {as : List α} {bs : List β}
    (h : List.Forall₂ R as bs) {b : β} (hb : b ∈ bs) : ∃ a ∈ as, R a b := by
  induction h with
  | nil => cases hb
  | cons hab _ ih =>
    rcases List.mem_cons.1 hb with rfl | hb
    · exact ⟨_, List.mem_cons_self, hab⟩
    · rcases ih hb with ⟨a, ha, hab⟩
      exact ⟨a, List.mem_cons_of_mem _ ha, hab⟩

/-- Where everything has a result there are results of all. -/
theorem exists_forall₂ {R : α → β → Prop} {as : List α} (h : ∀ a ∈ as, ∃ b, R a b) :
    ∃ bs, List.Forall₂ R as bs := by
  induction as with
  | nil => exact ⟨[], .nil⟩
  | cons a rest ih =>
    rcases h a List.mem_cons_self with ⟨b, hb⟩
    rcases ih fun a' ha' => h a' (List.mem_cons_of_mem _ ha') with ⟨bs, hbs⟩
    exact ⟨b :: bs, .cons hb hbs⟩

/-- What every result keeps of its origin is kept of the list. -/
theorem map_eq_of_forall₂ {γ : Type} {R : α → β → Prop} {f : α → γ} {g : β → γ}
    (hR : ∀ a b, R a b → g b = f a) {as : List α} {bs : List β} (h : List.Forall₂ R as bs) :
    bs.map g = as.map f := by
  induction h with
  | nil => rfl
  | cons hab _ ih => rw [List.map_cons, List.map_cons, hR _ _ hab, ih]

end Outcome
end Ingest
