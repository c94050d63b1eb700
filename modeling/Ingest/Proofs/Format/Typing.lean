import Ingest.Format.Formatter
import Ingest.Proofs.Dict
import Ingest.Proofs.Outcome
import Ingest.Schema.DataType

/-!
# Values and their types

`Conforms` says which values belong to a type. A formatter of lists sends item by item, and one of
records sends member by member (`list_eq_ok`, `struct_eq_ok`), so that what holds of the parts of a
value holds of the whole. `KeepsIntegers` says of a value and what it was sent as that no number
was changed on the way.
-/

namespace Ingest

/-! ## Conforming values -/

namespace Scalar

/-- Whether a value is of the kind of a scalar type. -/
def holds : Scalar → Value → Bool
  | .string, .string _ | .bool, .bool _ | .int32, .int32 _ | .int64, .int64 _
  | .float32, .float32 _ | .float64, .float64 _ | .date32, .date _
  | .timestamp _ _, .timestamp _ | .binary, .binary _ => true
  | _, _ => false

def isInteger : Scalar → Bool
  | .int32 | .int64 => true
  | _ => false

/-- Whether a number of at most 64 bits fits into a type of integers. -/
def fits : Scalar → Int → Bool
  | .int32, n => Int32.minValue.toInt ≤ n && n ≤ Int32.maxValue.toInt
  | _, _ => true

theorem fits_int32 (n : Int32) : Scalar.int32.fits n.toInt = true := by
  have hmin : -2147483648 ≤ n.toInt := n.le_toInt
  simpa [fits, Int32.toInt_le] using hmin

end Scalar

/-- A value belongs to a type that may be nullable. Null stands for a list whether or not the type
is nullable, and for what a record does not have. -/
inductive Conforms : DataType → Bool → Value → Prop
  | null {s : Scalar} : Conforms (.scalar s) true .null
  | scalar {s : Scalar} {nullable : Bool} {v : Value} :
      s.holds v = true → Conforms (.scalar s) nullable v
  | noItems {element : DataType} {nullable : Bool} : Conforms (.list element) nullable .null
  | items {element : DataType} {nullable : Bool} {items : List Value} :
      (∀ i ∈ items, Conforms element false i) → Conforms (.list element) nullable (.list items)
  | members {fields : List Field} {nullable : Bool} {record : List (String × Value)} :
      (∀ f ∈ fields, Conforms f.type f.nullable (Row.value record f.name)) →
        Conforms (.struct fields) nullable (.struct record)

mutual

/-- Whether the members of each record in a type have distinct names. -/
def DataType.distinctNames : DataType → Bool
  | .scalar _ => true
  | .list element => element.distinctNames
  | .struct fields => decide (fields.map (·.name)).Nodup && distinctNamesWithin fields

def distinctNamesWithin : List Field → Bool
  | [] => true
  | ⟨_, type, _, _⟩ :: rest => type.distinctNames && distinctNamesWithin rest

end

/-! ## Values without null -/

namespace Value

mutual

/-- Whether null occurs nowhere in a value. -/
def nullFree : Value → Bool
  | .null => false
  | .list items => nullFreeItems items
  | .struct members => nullFreeMembers members
  | _ => true

def nullFreeItems : List Value → Bool
  | [] => true
  | v :: rest => v.nullFree && nullFreeItems rest

def nullFreeMembers : List (String × Value) → Bool
  | [] => true
  | (_, v) :: rest => v.nullFree && nullFreeMembers rest

end

theorem nullFree_list {items : List Value} :
    (list items).nullFree = true ↔ ∀ i ∈ items, i.nullFree = true := by
  rw [nullFree]
  induction items with
  | nil => simp [nullFreeItems]
  | cons i rest ih => simp [nullFreeItems, ih]

theorem nullFree_struct {members : List (String × Value)} :
    (struct members).nullFree = true ↔ ∀ e ∈ members, e.2.nullFree = true := by
  rw [nullFree]
  induction members with
  | nil => simp [nullFreeMembers]
  | cons e rest ih =>
    rcases e with ⟨name, v⟩
    simp [nullFreeMembers, ih]

/-- The number of an integer value. -/
def integer? : Value → Option Int
  | .int32 n => some n.toInt
  | .int64 n => some n.toInt
  | _ => none

end Value

/-! ## Integers -/

/-- An integer somewhere in a value does not fit into its type. -/
inductive Overflows : DataType → Value → Prop
  | scalar {s : Scalar} {n : Int64} : s.fits n.toInt = false → Overflows (.scalar s) (.int64 n)
  | item {element : DataType} {items : List Value} {i : Value} :
      i ∈ items → Overflows element i → Overflows (.list element) (.list items)
  | member {fields : List Field} {record : List (String × Value)} {f : Field} :
      f ∈ fields → Overflows f.type (Row.value record f.name) →
        Overflows (.struct fields) (.struct record)

/-- Every integer in a value fits and is sent as the same number. `absent` is the number, if any,
that null is sent as in a nullable column of integers. -/
inductive KeepsIntegers (absent : Option Int) : DataType → Bool → Value → Value → Prop
  | other {s : Scalar} {nullable : Bool} {v r : Value} :
      s.isInteger = false → KeepsIntegers absent (.scalar s) nullable v r
  | null {s : Scalar} {r : Value} :
      r.integer? = absent → KeepsIntegers absent (.scalar s) true .null r
  | same {s : Scalar} {nullable : Bool} {v r : Value} {n : Int} :
      v.integer? = some n → r.integer? = some n → s.fits n = true →
        KeepsIntegers absent (.scalar s) nullable v r
  | noItems {element : DataType} {nullable : Bool} :
      KeepsIntegers absent (.list element) nullable .null (.list [])
  | items {element : DataType} {nullable : Bool} {items sent : List Value} :
      items.length = sent.length →
      (∀ p ∈ items.zip sent, KeepsIntegers absent element false p.1 p.2) →
        KeepsIntegers absent (.list element) nullable (.list items) (.list sent)
  | members {fields : List Field} {nullable : Bool} {record sent : List (String × Value)} :
      (∀ f ∈ fields, KeepsIntegers absent f.type f.nullable (Row.value record f.name)
        (Row.value sent f.name)) →
        KeepsIntegers absent (.struct fields) nullable (.struct record) (.struct sent)

/-- What is sent has no number that does not fit. -/
theorem KeepsIntegers.not_overflows {absent : Option Int} {t : DataType} {nullable : Bool}
    {v r : Value} (h : KeepsIntegers absent t nullable v r) : ¬ Overflows t v := by
  -- The induction is on the way to the number; what is sent follows the same way.
  intro hover
  induction hover generalizing nullable r with
  | @scalar s n hover =>
    have hfits : s.fits n.toInt = true := by
      cases h with
      | other hs => cases s <;> first | rfl | cases hs
      | same hn _ hfits =>
        cases hn
        exact hfits
    rw [hfits] at hover
    cases hover
  | @item element items i hi _ ih =>
    cases h with
    | items hlength hall =>
      have hsent := List.forall₂_iff_zip.2 ⟨hlength, fun {i s} hp => hall (i, s) hp⟩
      rcases Outcome.exists_of_forall₂ hsent.flip hi with ⟨s, -, hs⟩
      exact ih hs
  | member hf _ ih =>
    cases h with
    | members hall => exact ih (hall _ hf)

/-! ## Formatters of scalars -/

namespace Formatter

variable {v r : Value} {m : Metadata}

theorem string_eq_ok (h : string v m = .ok r) : ∃ s, r = .string s := by
  cases v <;> cases h
  exact ⟨_, rfl⟩

theorem bool_eq_ok (h : bool v m = .ok r) : ∃ b, r = .bool b := by
  cases v <;> cases h
  exact ⟨_, rfl⟩

theorem float64_eq_ok (h : float64 v m = .ok r) : ∃ bits, r = .float64 bits := by
  cases v <;> cases h <;> exact ⟨_, rfl⟩

theorem float32_eq_ok (h : float32 v m = .ok r) : ∃ bits, r = .float32 bits := by
  cases v with
  | float32 bits =>
    cases h
    exact ⟨bits, rfl⟩
  | float64 bits =>
    simp only [float32] at h
    split at h
    · cases h
    · cases h
      exact ⟨_, rfl⟩
  | _ => cases h

theorem date_eq_ok (h : date v m = .ok r) : ∃ s, r = .string s := by
  cases v with
  | date d =>
    cases h
    exact ⟨_, rfl⟩
  | timestamp t =>
    cases h
    exact ⟨_, rfl⟩
  | string s =>
    simp only [date] at h
    split at h
    · cases h
      exact ⟨s, rfl⟩
    · cases h
  | _ => cases h

/-- An integer of 64 bits is sent as it is, and one of 32 bits as the same number. -/
theorem int64_eq_ok (h : int64 v m = .ok r) :
    ∃ n, r = .int64 n ∧ v.integer? = some n.toInt := by
  cases v with
  | int32 n =>
    cases h
    exact ⟨_, rfl, by rw [Value.integer?, Int32.toInt_toInt64]⟩
  | int64 n =>
    cases h
    exact ⟨n, rfl, rfl⟩
  | _ => cases h

/-- An integer is sent in 32 bits only if it is in range, and then as the same number. -/
theorem int32_eq_ok (h : int32 v m = .ok r) :
    ∃ n, r = .int32 n ∧ v.integer? = some n.toInt := by
  cases v with
  | int32 n =>
    cases h
    exact ⟨n, rfl, rfl⟩
  | int64 n =>
    simp only [int32] at h
    split at h
    · rename_i hrange
      cases h
      refine ⟨n.toInt32, rfl, ?_⟩
      have hmin : Int32.minValue.toInt = -2 ^ 31 := by decide
      have hmax : Int32.maxValue.toInt = 2 ^ 31 - 1 := by decide
      have hsame : n.toInt32.toInt = n.toInt := by
        rw [Int64.toInt_toInt32, Int.bmod_eq_of_le] <;> omega
      rw [Value.integer?, hsame]
    · cases h
  | _ => cases h

/-! ## Formatters of composites -/

/-- A list is sent item by item, and null as the list without items. -/
theorem list_eq_ok {item : Formatter} (h : list item v m = .ok r) :
    ∃ sent, r = .list sent ∧ (v = .null ∧ sent = [] ∨ ∃ items, v = .list items ∧
      List.Forall₂ (fun i s => item i m = .ok s) items sent) := by
  cases v with
  | null =>
    cases h
    exact ⟨[], rfl, .inl ⟨rfl, rfl⟩⟩
  | list items =>
    rcases Outcome.map_eq_ok h with ⟨sent, hsent, rfl⟩
    exact ⟨sent, rfl, .inr ⟨items, rfl, Outcome.mapM_eq_ok_iff.1 hsent⟩⟩
  | _ => cases h

/-- A list can be sent if each of its items can. -/
theorem list_of_items {item : Formatter} {items : List Value}
    (h : ∀ i ∈ items, ∃ s, item i m = .ok s) : ∃ r, list item (.list items) m = .ok r := by
  rcases Outcome.exists_forall₂ h with ⟨sent, hsent⟩
  exact ⟨.list sent, congrArg (Except.map Value.list) (Outcome.mapM_eq_ok_iff.2 hsent)⟩

/-- A record is sent with exactly the members that have a formatter, each as its formatter
says. -/
structure SentAs (formatters : List (String × Formatter)) (m : Metadata)
    (record sent : List (String × Value)) : Prop where
  names : (sent.map (·.1)).Perm (formatters.map (·.1))
  member : ∀ f ∈ formatters, f.2 (Row.value record f.1) m = .ok (Row.value sent f.1)
  only : ∀ e ∈ sent, ∃ f ∈ formatters, f.2 (Row.value record f.1) m = .ok e.2

theorem struct_eq_ok {formatters : List (String × Formatter)}
    (hdistinct : (formatters.map (·.1)).Nodup) (h : struct formatters v m = .ok r) :
    ∃ record sent, v = .struct record ∧ r = .struct sent ∧ SentAs formatters m record sent := by
  cases v with
  | struct record =>
    rcases Outcome.map_eq_ok h with ⟨ms, hms, rfl⟩
    have hmembers := Outcome.mapM_eq_ok_iff.1 hms
    have hentry : ∀ (f : String × Formatter) (e : String × Value),
        ((f.2 (Row.value record f.1) m).map fun v => (f.1, v)) = .ok e →
          e.1 = f.1 ∧ f.2 (Row.value record f.1) m = .ok e.2 := by
      intro f e he
      rcases Outcome.map_eq_ok he with ⟨s, hs, rfl⟩
      exact ⟨rfl, hs⟩
    have hnames : ms.map (·.1) = formatters.map (·.1) :=
      Outcome.map_eq_of_forall₂ (fun f e he => (hentry f e he).1) hmembers
    -- No member overwrites another, since the names are distinct.
    have hnodup : (ms.map (·.1)).Nodup := hnames ▸ hdistinct
    have hperm := Dict.perm_ofList hnodup
    refine ⟨record, Dict.ofList ms, rfl, rfl, ?_, ?_, ?_⟩
    · rw [← hnames]
      exact hperm.map _
    · intro f hf
      rcases Outcome.exists_of_forall₂ hmembers.flip hf with ⟨e, he, hfe⟩
      rcases hentry f e hfe with ⟨hname, hsent⟩
      rw [hsent, ← hname, Row.value, Dict.get?_ofList_of_mem hnodup he]
      rfl
    · intro e he
      rcases Outcome.exists_of_forall₂ hmembers (hperm.mem_iff.1 he) with ⟨f, hf, hfe⟩
      exact ⟨f, hf, (hentry f e hfe).2⟩
  | _ => cases h

/-- A record can be sent if each member that has a formatter can. -/
theorem struct_of_members {formatters : List (String × Formatter)}
    {record : List (String × Value)}
    (h : ∀ f ∈ formatters, ∃ s, f.2 (Row.value record f.1) m = .ok s) :
    ∃ r, struct formatters (.struct record) m = .ok r := by
  have hentries : ∀ f ∈ formatters, ∃ e,
      ((f.2 (Row.value record f.1) m).map fun v => (f.1, v)) = .ok e := by
    intro f hf
    rcases h f hf with ⟨s, hs⟩
    exact ⟨(f.1, s), by rw [hs]; rfl⟩
  rcases Outcome.exists_forall₂ hentries with ⟨ms, hms⟩
  exact ⟨.struct (Dict.ofList ms),
    congrArg (Except.map fun ms => Value.struct (Dict.ofList ms)) (Outcome.mapM_eq_ok_iff.2 hms)⟩

/-! ## Formatters of types -/

/-- A formatter sends every value of a type, sends nothing but values of a shape, and changes no
integer. -/
structure Sends (f : Formatter) (absent : Option Int) (t : DataType) (nullable : Bool)
    (shape : Value → Prop) : Prop where
  total : ∀ {v}, Conforms t nullable v → ∀ m, ∃ r, f v m = .ok r
  shaped : ∀ {v m r}, f v m = .ok r → shape r
  keeps : ∀ {v m r}, f v m = .ok r → KeepsIntegers absent t nullable v r

section Sends

variable {f : Formatter} {absent : Option Int} {t : DataType} {nullable : Bool}

theorem Sends.mono {shape wider : Value → Prop} (h : Sends f absent t nullable shape)
    (hshape : ∀ {r}, shape r → wider r) : Sends f absent t nullable wider :=
  ⟨h.total, fun hr => hshape (h.shaped hr), h.keeps⟩

/-- A value with a number that does not fit is refused. -/
theorem Sends.refuses {shape : Value → Prop} (h : Sends f absent t nullable shape) {v : Value}
    (hv : Overflows t v) (m : Metadata) : ∃ e, f v m = .error e := by
  cases hr : f v m with
  | error e => exact ⟨e, rfl⟩
  | ok r => exact absurd hv (h.keeps hr).not_overflows

theorem Sends.list {shape : Value → Prop} (h : Sends f absent t false shape) :
    Sends (Formatter.list f) absent (.list t) nullable
      fun r => ∃ sent, r = .list sent ∧ ∀ s ∈ sent, shape s where
  total hv m := by
    cases hv with
    | noItems => exact ⟨.list [], rfl⟩
    | items hitems => exact list_of_items fun i hi => h.total (hitems i hi) m
  shaped hr := by
    rcases list_eq_ok hr with ⟨sent, rfl, ⟨-, rfl⟩ | ⟨items, -, hsent⟩⟩
    · exact ⟨[], rfl, nofun⟩
    · refine ⟨sent, rfl, fun s hs => ?_⟩
      rcases Outcome.exists_of_forall₂ hsent hs with ⟨i, -, hi⟩
      exact h.shaped hi
  keeps hr := by
    rcases list_eq_ok hr with ⟨sent, rfl, ⟨rfl, rfl⟩ | ⟨items, rfl, hsent⟩⟩
    · exact .noItems
    · refine .items hsent.length_eq ?_
      rintro ⟨i, s⟩ hp
      exact h.keeps (List.forall₂_zip hsent hp)

/-- What a formatter of records sends has exactly the parts as members, each in the shape of its
part. -/
theorem Sends.struct {α : Type} {fields : List Field} {parts : List (String × α)}
    {formatter : α → Formatter} {shape : α → Value → Prop}
    (hdistinct : (fields.map (·.name)).Nodup)
    (hparts : List.Forall₂ (fun f p => p.1 = f.name ∧
      Sends (formatter p.2) absent f.type f.nullable (shape p.2)) fields parts) :
    Sends (Formatter.struct (parts.map fun p => (p.1, formatter p.2))) absent (.struct fields)
      nullable fun r => ∃ sent, r = .struct sent ∧ (sent.map (·.1)).Perm (parts.map (·.1)) ∧
        (∀ p ∈ parts, shape p.2 (Row.value sent p.1)) ∧
          ∀ e ∈ sent, ∃ p ∈ parts, shape p.2 e.2 := by
  have hnames : parts.map (·.1) = fields.map (·.name) :=
    Outcome.map_eq_of_forall₂ (fun f p hp => hp.1) hparts
  have hkeys : (parts.map fun p => (p.1, formatter p.2)).map (·.1) = parts.map (·.1) := by
    rw [List.map_map]
    rfl
  have hpart : ∀ g ∈ parts.map fun p => (p.1, formatter p.2),
      ∃ p ∈ parts, g = (p.1, formatter p.2) ∧ ∃ f ∈ fields, p.1 = f.name ∧
        Sends (formatter p.2) absent f.type f.nullable (shape p.2) := by
    intro g hg
    rcases List.mem_map.1 hg with ⟨p, hp, rfl⟩
    rcases Outcome.exists_of_forall₂ hparts hp with ⟨f, hf, hpf⟩
    exact ⟨p, hp, rfl, f, hf, hpf⟩
  have hsentAs := fun {v r : Value} {m : Metadata} =>
    struct_eq_ok (v := v) (r := r) (m := m) (hkeys ▸ hnames ▸ hdistinct)
  refine ⟨?_, ?_, ?_⟩
  · intro v hv m
    rcases hv with _ | _ | _ | _ | hmembers
    refine struct_of_members fun g hg => ?_
    rcases hpart g hg with ⟨p, -, rfl, f, hf, hname, hsends⟩
    exact hsends.total (hname ▸ hmembers f hf) m
  · intro v m r hr
    rcases hsentAs hr with ⟨record, sent, -, rfl, hsent⟩
    refine ⟨sent, rfl, hkeys ▸ hsent.names, fun p hp => ?_, fun e he => ?_⟩
    · rcases Outcome.exists_of_forall₂ hparts hp with ⟨f, -, -, hsends⟩
      exact hsends.shaped (hsent.member _ (List.mem_map_of_mem hp))
    · rcases hsent.only e he with ⟨g, hg, hformat⟩
      rcases hpart g hg with ⟨p, hp, rfl, f, -, -, hsends⟩
      exact ⟨p, hp, hsends.shaped hformat⟩
  · intro v m r hr
    rcases hsentAs hr with ⟨record, sent, rfl, rfl, hsent⟩
    refine .members fun f hf => ?_
    rcases Outcome.exists_of_forall₂ hparts.flip hf with ⟨p, hp, hname, hsends⟩
    rw [← hname]
    exact hsends.keeps (hsent.member _ (List.mem_map_of_mem hp))

end Sends

end Formatter
end Ingest
