import Ingest.Decimal.Notation
import Ingest.Dict

/-!
# JSON

JSON values, and their compact text: no blanks, the members of an object in their order, and in
texts only the quote, the backslash and the control characters escaped. The small readers for
values are what the formats of the library are built from; the values are not read from text here.
-/

namespace Ingest

/-- A JSON value. Numbers are integers or other decimals, which are written in a style. -/
inductive Json where
  | null
  | bool (b : Bool)
  | int (n : Int)
  | decimal (style : Decimal.Style) (d : Decimal)
  | string (s : String)
  | array (items : List Json)
  | object (members : List (String × Json))

namespace Json

instance : Inhabited Json := ⟨null⟩

/-! ## Compact text -/

def escaped (c : Char) : List Char :=
  if c == '"' then ['\\', '"']
  else if c == '\\' then ['\\', '\\']
  else if c == '\x08' then ['\\', 'b']
  else if c == '\t' then ['\\', 't']
  else if c == '\n' then ['\\', 'n']
  else if c == '\x0c' then ['\\', 'f']
  else if c == '\r' then ['\\', 'r']
  else if c.toNat < 32 then
    ['\\', 'u', '0', '0', Nat.digitChar (c.toNat / 16), Nat.digitChar (c.toNat % 16)]
  else [c]

/-- A text between quotes. -/
def stringText (s : String) : List Char :=
  '"' :: s.toList.flatMap escaped ++ ['"']

mutual

/-- The compact text of a value as characters. -/
def chars : Json → List Char
  | null => ['n', 'u', 'l', 'l']
  | bool b => if b then ['t', 'r', 'u', 'e'] else ['f', 'a', 'l', 's', 'e']
  | int n => Text.integer n
  | decimal style d => d.styled style
  | string s => stringText s
  | array items => '[' :: itemChars items ++ [']']
  | object members => '\x7b' :: memberChars members ++ ['\x7d']

/-- Items separated by commas. -/
def itemChars : List Json → List Char
  | [] => []
  | [item] => item.chars
  | item :: next :: rest => item.chars ++ ',' :: itemChars (next :: rest)

/-- Members separated by commas, each a key and a value. -/
def memberChars : List (String × Json) → List Char
  | [] => []
  | [(key, value)] => stringText key ++ ':' :: value.chars
  | (key, value) :: next :: rest =>
    stringText key ++ ':' :: value.chars ++ ',' :: memberChars (next :: rest)

end

/-- The compact text of a value. -/
def text (j : Json) : String :=
  String.ofList j.chars

/-! ## Reading values -/

/-- The value of a number in the style of its format, or null if it has no decimal. -/
def ofNumber (style : Decimal.Style) (x : Floating.Number) : Json :=
  match x.jsonDecimal? style.format with
  | some d => decimal style d
  | none => null

/-- A value in which null and absence say the same. -/
def ofOption {α : Type} (encode : α → Json) : Option α → Json
  | some a => encode a
  | none => null

def member? : Json → String → Option Json
  | object members, key => Dict.get? members key
  | _, _ => none

def asString? : Json → Option String
  | string s => some s
  | _ => none

def asBool? : Json → Option Bool
  | bool b => some b
  | _ => none

/-- The name of a choice without content: a text, or an object whose only member has the name as
its key and holds nothing. What counts as nothing is given. -/
def asChoice? (isNothing : Json → Bool) : Json → Option String
  | string name => some name
  | object [(name, content)] => if isNothing content then some name else none
  | _ => none

/-- The null value. -/
def isNull : Json → Bool
  | null => true
  | _ => false

/-- The null value or an object without members. -/
def isNullOrEmpty : Json → Bool
  | null | object [] => true
  | _ => false

/-- The integer, if it lies below the limit and is not negative. -/
def asNat? (limit : Nat) : Json → Option Nat
  | int n => if 0 ≤ n && n < limit then some n.toNat else none
  | _ => none

/-- The integer, if it lies between the limits. -/
def asInt? (low high : Int) : Json → Option Int
  | int n => if low ≤ n && n < high then some n else none
  | _ => none

def asArray? : Json → Option (List Json)
  | array items => some items
  | _ => none

def asObject? : Json → Option (List (String × Json))
  | object members => some members
  | _ => none

/-- A record as an object. An object may have further members, but none of the known ones twice; an
array has the members in the order of their names, and may end early. -/
def record? (names : List String) : Json → Option Json
  | object members =>
    if ((members.map (·.1)).filter (· ∈ names)).Nodup then some (object members) else none
  | array items =>
    if items.length ≤ names.length then some (object (names.zip items)) else none
  | _ => none

/-- A tag and what it is the tag of. An object has the tag under a key, once; an array starts with
it. -/
def tagged? (key : String) : Json → Option (Json × Json)
  | object members =>
    match members.filter (·.1 == key) with
    | [(_, tag)] => some (tag, object (Dict.erase members key))
    | _ => none
  | array (tag :: content) => some (tag, array content)
  | _ => none

/-- Reads what is required: a member that must be there. -/
def required {α : Type} (j : Json) (key : String) (decode : Json → Option α) : Option α :=
  (j.member? key).bind decode

/-- Reads a member that may be absent; null is not absence. -/
def defaulted {α : Type} (j : Json) (key : String) (default : α) (decode : Json → Option α) :
    Option α :=
  match j.member? key with
  | some v => decode v
  | none => some default

/-- Reads a member that may be absent or null. -/
def optional {α : Type} (j : Json) (key : String) (decode : Json → Option α) :
    Option (Option α) :=
  match j.member? key with
  | none | some null => some none
  | some v => (decode v).map some

/-- Reads every item of an array. -/
def all {α : Type} (decode : Json → Option α) (j : Json) : Option (List α) :=
  j.asArray?.bind (·.mapM decode)

/-! ## What is read is smaller -/

theorem sizeOf_lt_of_get? {members : List (String × Json)} {key : String} {value : Json}
    (h : Dict.get? members key = some value) : sizeOf value < sizeOf members := by
  induction members with
  | nil => cases h
  | cons m rest ih =>
    obtain ⟨k, v⟩ := m
    unfold Dict.get? at h
    split at h
    · cases h
      simp
      omega
    · have := ih h
      simp
      omega

theorem sizeOf_lt_of_get?_zip {names : List String} {items : List Json} {key : String}
    {value : Json} (h : Dict.get? (names.zip items) key = some value) :
    sizeOf value < sizeOf items := by
  induction names generalizing items with
  | nil => cases h
  | cons name names ih =>
    cases items with
    | nil => cases h
    | cons item items =>
      unfold Dict.get? at h
      simp only [List.zip_cons_cons] at h
      split at h
      · cases h
        simp
        omega
      · have := ih h
        simp
        omega

/-- A member of a record is smaller than what the record was read from. -/
theorem sizeOf_lt_of_record? {names : List String} {j r value : Json} {key : String}
    (h : j.record? names = some r) (hvalue : r.member? key = some value) :
    sizeOf value < sizeOf j := by
  cases j with
  | object members =>
    simp only [record?] at h
    split at h
    · cases h
      have := sizeOf_lt_of_get? hvalue
      simp
      omega
    · cases h
  | array items =>
    simp only [record?] at h
    split at h
    · cases h
      have := sizeOf_lt_of_get?_zip hvalue
      simp
      omega
    · cases h
  | _ => cases h

theorem sizeOf_filter_le (members : List (String × Json)) (p : String × Json → Bool) :
    sizeOf (members.filter p) ≤ sizeOf members := by
  induction members with
  | nil => exact Nat.le_refl _
  | cons m rest ih =>
    rw [List.filter_cons]
    split <;> simp <;> omega

/-- What a tag is the tag of is not larger than the whole. -/
theorem sizeOf_le_of_tagged? {key : String} {j tag content : Json}
    (h : j.tagged? key = some (tag, content)) : sizeOf content ≤ sizeOf j := by
  cases j with
  | object members =>
    simp only [tagged?] at h
    split at h
    · cases h
      have := sizeOf_filter_le members fun e => e.1 != key
      simp [Dict.erase]
      omega
    · cases h
  | array items =>
    cases items with
    | nil => cases h
    | cons item rest =>
      cases h
      simp
  | _ => cases h

end Json
end Ingest
