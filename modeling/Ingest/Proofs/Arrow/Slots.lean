import Ingest.Proofs.Arrow.Range
import Ingest.Proofs.Dict
import Ingest.Proofs.Format.Typing
import Ingest.Proofs.Outcome

/-!
# Slots and their values

The type of a column is read on one way, as a neutral type, and its slots on another, as values.
`Shows` says what value a slot has, null for null, and `Value.OfType` which values a type has;
`strays` lists the counts of a slot that the calendar does not reach. Main statement:
`readsAs_of_toDataType`, by which the first stray is reported and what has no strays is read as a
value of the neutral type.
-/

namespace Ingest

/-- A value is null or of a type, and so are its parts. A record has exactly the members that its
type names. -/
inductive Value.OfType : DataType → Value → Prop
  | null {t : DataType} : OfType t .null
  | scalar {s : Scalar} {v : Value} : s.holds v = true → OfType (.scalar s) v
  | list {element : DataType} {items : List Value} :
      (∀ i ∈ items, OfType element i) → OfType (.list element) (.list items)
  | struct {fields : List Field} {record : List (String × Value)} :
      (record.map (·.1)).Perm (fields.map (·.name)) →
      (∀ f ∈ fields, OfType f.type (Row.value record f.name)) →
        OfType (.struct fields) (.struct record)

namespace Arrow

/-! ## What slots show -/

/-- A slot shows as null if it is null, and otherwise as its content does, which never is null. -/
def SlotShows {α : Type} (Shows : α → Value → Prop) : Option α → Value → Prop
  | none, v => v = .null
  | some content, v => v ≠ .null ∧ Shows content v

mutual

/-- A value is that of a content: the same datum, the day or the instant that is counted to, as
many items in the same order, or exactly the members by name. -/
def Shows : (t : ArrowType) → Content t → Value → Prop
  | .bool, b, v => v = .bool b
  | .int32, n, v => v = .int32 n
  | .int64, n, v => v = .int64 n
  | .float32, bits, v => v = .float32 bits
  | .float64, bits, v => v = .float64 bits
  | .date32, days, v => ∃ d : Calendar.Date, v = .date d ∧ d.day = days.toInt
  | .timestamp unit _, count, v => ∃ t, v = .timestamp t ∧ CountsTo unit count.toInt t
  | .utf8 _, s, v => v = .string s
  | .binary _, bytes, v => v = .binary bytes
  | .list _ ⟨_, type, _, _⟩, items, v =>
    ∃ vs, v = .list vs ∧ List.Forall₂ (SlotShows (Shows type)) items vs
  | .struct fields, members, v =>
    ∃ record, v = .struct record ∧ (record.map (·.1)).Perm (fields.map (·.name)) ∧
      MembersShow fields members record
  | .foreign _, _, _ => False
  | .dictionary _ _, _, _ => False

/-- A record has the value of each slot under the name of its field. -/
def MembersShow : (fields : List ArrowField) → Members fields → List (String × Value) → Prop
  | [], _, _ => True
  | ⟨name, type, _, _⟩ :: rest, (slot, slots), record =>
    SlotShows (Shows type) slot (Row.value record name) ∧ MembersShow rest slots record

end

/-! ## Counts beyond the calendar -/

/-- A count that the calendar does not reach, and what it should count to. -/
structure Stray where
  count : Int
  target : String
  deriving DecidableEq

namespace Stray

def failure (x : Stray) : Failure :=
  outOfRange x.count x.target

def ofDays (days : Int) : List Stray :=
  if HasDay days then [] else [⟨days, "date32"⟩]

def ofUnits (unit : TimeUnit) (count : Int) : List Stray :=
  if HasMoment unit count then [] else [⟨count, "timestamp"⟩]

end Stray

mutual

/-- The counts beyond the calendar in a content, in order. Behind null there are none. -/
def strays : (t : ArrowType) → Content t → List Stray
  | .date32, days => Stray.ofDays days.toInt
  | .timestamp unit _, count => Stray.ofUnits unit count.toInt
  | .list _ ⟨_, type, _, _⟩, items => items.flatMap fun slot => slot.elim [] (strays type)
  | .struct fields, members => memberStrays fields members
  | .bool, _ | .int32, _ | .int64, _ | .float32, _ | .float64, _ => []
  | .utf8 _, _ | .binary _, _ | .foreign _, _ | .dictionary _ _, _ => []

def memberStrays : (fields : List ArrowField) → Members fields → List Stray
  | [], _ => []
  | ⟨_, type, _, _⟩ :: rest, (slot, slots) =>
    slot.elim [] (strays type) ++ memberStrays rest slots

end

/-! ## Reports of strays -/

/-- An outcome reports the first of some strays; where there are none it has a result as told. -/
def Reports {α : Type} (xs : List Stray) (Result : α → Prop) (o : Outcome α) : Prop :=
  match xs with
  | [] => ∃ a, o = .ok a ∧ Result a
  | x :: _ => o = .error x.failure

namespace Reports

variable {α β : Type} {xs ys : List Stray} {P : α → Prop} {Q : β → Prop} {o : Outcome α}

theorem ok {a : α} (h : P a) : Reports [] P (.ok a) :=
  ⟨a, rfl, h⟩

theorem imp {P' : α → Prop} (h : Reports xs P o) (hP : ∀ a, P a → P' a) : Reports xs P' o := by
  cases xs with
  | nil =>
    obtain ⟨a, ho, ha⟩ := h
    exact ⟨a, ho, hP a ha⟩
  | cons x rest => exact h

theorem bind {f : α → Outcome β} (h : Reports xs P o) (hf : ∀ a, P a → Reports ys Q (f a)) :
    Reports (xs ++ ys) Q (o >>= f) := by
  cases xs with
  | nil =>
    obtain ⟨a, rfl, ha⟩ := h
    exact hf a ha
  | cons x rest =>
    cases h
    rfl

theorem map {f : α → β} (h : Reports xs P o) (hf : ∀ a, P a → Q (f a)) :
    Reports xs Q (o.map f) := by
  cases xs with
  | nil =>
    obtain ⟨a, rfl, ha⟩ := h
    exact ok (hf a ha)
  | cons x rest =>
    cases h
    rfl

/-- One after the other, the strays of all are reported, and the results are those of each. -/
theorem mapM {f : α → Outcome β} {found : α → List Stray} {R : α → β → Prop} {as : List α}
    (h : ∀ a ∈ as, Reports (found a) (R a) (f a)) :
    Reports (as.flatMap found) (List.Forall₂ R as) (as.mapM f) := by
  induction as with
  | nil => exact ok .nil
  | cons a rest ih =>
    -- Where the first has strays the rest is not looked at, and where it has none it adds nothing.
    rw [List.mapM_cons, List.flatMap_cons]
    refine (h a List.mem_cons_self).bind fun b hb => ?_
    have hrest := ih fun a' ha' => h a' (List.mem_cons_of_mem a ha')
    exact hrest.map (f := (b :: ·)) fun bs hbs => .cons hb hbs

theorem eq_error_iff (h : Reports xs P o) {e : Failure} :
    o = .error e ↔ ∃ x, xs.head? = some x ∧ e = x.failure := by
  cases xs with
  | nil =>
    obtain ⟨a, rfl, -⟩ := h
    simp
  | cons x rest =>
    cases h
    simp [eq_comm]

theorem of_ok (h : Reports xs P o) {a : α} (ha : o = .ok a) : P a := by
  cases xs with
  | nil =>
    obtain ⟨b, hb, hP⟩ := h
    cases ha.symm.trans hb
    exact hP
  | cons x rest => cases ha.symm.trans h

end Reports

/-! ## Contents -/

theorem reports_dateValue (days : Int32) :
    Reports (Stray.ofDays days.toInt)
      (fun v => ∃ d : Calendar.Date, v = .date d ∧ d.day = days.toInt) (dateValue days) := by
  by_cases h : HasDay days.toInt
  · rw [Stray.ofDays, if_pos h, dateValue_of_hasDay h]
    exact .ok ⟨_, rfl, rfl⟩
  · rw [Stray.ofDays, if_neg h, dateValue_of_not_hasDay h]
    rfl

theorem reports_timestampValue (unit : TimeUnit) (count : Int64) :
    Reports (Stray.ofUnits unit count.toInt)
      (fun v => ∃ t, v = .timestamp t ∧ CountsTo unit count.toInt t)
      (timestampValue unit count) := by
  by_cases h : HasMoment unit count.toInt
  · obtain ⟨t, ht, hcounts⟩ := timestampValue_of_hasMoment h
    rw [Stray.ofUnits, if_pos h, ht]
    exact .ok ⟨t, rfl, hcounts⟩
  · rw [Stray.ofUnits, if_neg h, timestampValue_of_not_hasMoment h]
    rfl

/-- Whatever a type holds is read as a value of a neutral type, up to strays. -/
def ReadsAs (a : ArrowType) (t : DataType) : Prop :=
  ∀ c : Content a, Reports (strays a c) (fun v => v ≠ .null ∧ Shows a c v ∧ v.OfType t)
    (contentValue a c)

/-- Whatever members are there are read under the names of the fields, and show in each record that
has these values. -/
def MembersReadAs (as : List ArrowField) (fs : List Field) : Prop :=
  ∀ members : Members as, Reports (memberStrays as members)
    (fun ms => ms.map (·.1) = fs.map (·.name) ∧
      ∀ record, (∀ e ∈ ms, Row.value record e.1 = e.2) →
        MembersShow as members record ∧ ∀ f ∈ fs, (Row.value record f.name).OfType f.type)
    (memberValues as members)

/-- A slot that is null has nothing behind it that could stray. -/
theorem ReadsAs.slot {a : ArrowType} {t : DataType} (h : ReadsAs a t) (slot : Slot a) :
    Reports (slot.elim [] (strays a)) (fun v => SlotShows (Shows a) slot v ∧ v.OfType t)
      (slotValue a slot) := by
  cases slot with
  | none => exact .ok ⟨rfl, .null⟩
  | some c => exact (h c).imp fun v hv => ⟨⟨hv.1, hv.2.1⟩, hv.2.2⟩

theorem ReadsAs.list {size : Size} {item : ArrowField} {element : DataType}
    (h : ReadsAs item.type element) : ReadsAs (.list size item) (.list element) := by
  rcases item with ⟨name, type, nullable, metadata⟩
  intro (items : List (Slot type))
  have hitems := Reports.mapM fun slot (_ : slot ∈ items) => h.slot slot
  refine hitems.map fun vs hvs => ⟨by simp, ⟨vs, rfl, hvs.imp fun _ _ hv => hv.1⟩, .list ?_⟩
  intro v hv
  obtain ⟨slot, -, -, htype⟩ := Outcome.exists_of_forall₂ hvs hv
  exact htype

theorem toFields_names {as : List ArrowField} {fs : List Field} (h : toFields as = .ok fs) :
    fs.map (·.name) = as.map (·.name) := by
  induction as generalizing fs with
  | nil =>
    cases h
    rfl
  | cons a rest ih =>
    rcases a with ⟨name, type, nullable, metadata⟩
    rcases Outcome.bind_eq_ok h with ⟨t, -, h⟩
    rcases Outcome.bind_eq_ok h with ⟨others, hothers, h⟩
    cases h
    rw [List.map_cons, List.map_cons, ih hothers]

theorem ReadsAs.struct {as : List ArrowField} {fs : List Field} (h : MembersReadAs as fs)
    (hnames : fs.map (·.name) = as.map (·.name)) (hdistinct : (fs.map (·.name)).Nodup) :
    ReadsAs (.struct as) (.struct fs) := by
  intro members
  refine (h members).map fun ms hms => ?_
  obtain ⟨hkeys, hshow⟩ := hms
  -- The names of the type differ, and so do those of the members.
  have hnodup : (ms.map (·.1)).Nodup := hkeys ▸ hdistinct
  have hperm : ((Dict.ofList ms).map (·.1)).Perm (fs.map (·.name)) :=
    hkeys ▸ (Dict.perm_ofList hnodup).map (·.1)
  -- No member overwrites another, so that each is found in the record.
  obtain ⟨hmembers, htypes⟩ := hshow (Dict.ofList ms) fun e he => by
    rw [Row.value, Dict.get?_ofList_of_mem hnodup he]
    rfl
  exact ⟨by simp, ⟨_, rfl, hnames ▸ hperm, hmembers⟩, .struct hperm htypes⟩

theorem MembersReadAs.cons {a : ArrowField} {f : Field} {as : List ArrowField} {fs : List Field}
    (hname : f.name = a.name) (hfirst : ReadsAs a.type f.type) (hrest : MembersReadAs as fs) :
    MembersReadAs (a :: as) (f :: fs) := by
  rcases a with ⟨name, type, nullable, metadata⟩
  intro (slot, slots)
  rw [memberStrays, memberValues]
  refine (hfirst.slot slot).bind fun v hv => ?_
  refine (hrest slots).map (f := ((name, v) :: ·)) fun ms hms => ⟨?_, fun record hrecord => ?_⟩
  · rw [List.map_cons, List.map_cons, hms.1, hname]
  · obtain ⟨hvalue, hvalues⟩ := List.forall_mem_cons.1 hrecord
    obtain ⟨hmembers, htypes⟩ := hms.2 record hvalues
    have hmember : Row.value record name = v := hvalue
    refine ⟨⟨hmember ▸ hv.1, hmembers⟩, List.forall_mem_cons.2 ⟨?_, htypes⟩⟩
    rw [hname, hmember]
    exact hv.2

/-! ## Types

The recursion goes down the type, along which both its neutral form and the values of its slots are
found. -/

mutual

/-- A type that has a neutral form is read as that form. -/
theorem readsAs_of_toDataType : (a : ArrowType) → {t : DataType} → a.toDataType = .ok t →
    t.distinctNames = true → ReadsAs a t
  | .list _ ⟨_, type, _, _⟩, t, h, hdistinct => by
    rcases Outcome.map_eq_ok h with ⟨element, helement, rfl⟩
    exact (readsAs_of_toDataType type helement hdistinct).list
  | .struct as, t, h, hdistinct => by
    rcases Outcome.map_eq_ok h with ⟨fs, hfs, rfl⟩
    rw [DataType.distinctNames, Bool.and_eq_true, decide_eq_true_eq] at hdistinct
    exact .struct (membersReadAs_of_toFields as hfs hdistinct.2) (toFields_names hfs) hdistinct.1
  | .date32, t, h, _ => by
    cases h
    intro days
    exact (reports_dateValue days).imp fun v hv => by
      obtain ⟨d, rfl, hday⟩ := hv
      exact ⟨by simp, ⟨d, rfl, hday⟩, .scalar rfl⟩
  | .timestamp unit _, t, h, _ => by
    cases h
    intro count
    exact (reports_timestampValue unit count).imp fun v hv => by
      obtain ⟨t, rfl, hcounts⟩ := hv
      exact ⟨by simp, ⟨t, rfl, hcounts⟩, .scalar rfl⟩
  | .bool, t, h, _ | .int32, t, h, _ | .int64, t, h, _ | .float32, t, h, _ => by
    cases h
    exact fun c => .ok ⟨by simp, rfl, .scalar rfl⟩
  | .float64, t, h, _ | .utf8 _, t, h, _ | .binary _, t, h, _ => by
    cases h
    exact fun c => .ok ⟨by simp, rfl, .scalar rfl⟩
  | .foreign _, t, h, _ | .dictionary _ _, t, h, _ => by cases h

theorem membersReadAs_of_toFields : (as : List ArrowField) → {fs : List Field} →
    toFields as = .ok fs → distinctNamesWithin fs = true → MembersReadAs as fs
  | [], fs, h, _ => by
    cases h
    exact fun _ => .ok ⟨rfl, fun _ _ => ⟨trivial, nofun⟩⟩
  | ⟨_, type, _, _⟩ :: rest, fs, h, hdistinct => by
    rcases Outcome.bind_eq_ok h with ⟨t, ht, h⟩
    rcases Outcome.bind_eq_ok h with ⟨others, hothers, h⟩
    cases h
    rw [distinctNamesWithin, Bool.and_eq_true] at hdistinct
    exact .cons rfl (readsAs_of_toDataType type ht hdistinct.1)
      (membersReadAs_of_toFields rest hothers hdistinct.2)

end

end Arrow
end Ingest
