import Ingest.Calendar.Civil
import Ingest.Text.Classes

/-!
# Dates

A date is a day of the supported range, the years −262143 to 262142. `Date.text` writes it and
`readDate` reads the text of a date that a caller supplies, which need not be in the written form:
blanks may stand before each number and leading zeros may be missing.
-/

namespace Ingest
namespace Calendar

/-- The day number of −262143-01-01. -/
def firstDay : Int := -96465292

def lastDay : Int := 95026236

/-- A day of the supported range, counted from 1970-01-01. -/
structure Date where
  day : Int
  firstDay_le : firstDay ≤ day
  le_lastDay : day ≤ lastDay
  deriving DecidableEq

namespace Date

/-- The date of a day number, if it is supported. -/
def ofDay? (n : Int) : Option Date :=
  if h : firstDay ≤ n ∧ n ≤ lastDay then some ⟨n, h.1, h.2⟩ else none

/-- The number of 1970-01-01 where days are counted from 0001-01-01, the day with number 1. -/
def epochOrdinal : Int32 := 719163

/-- The date of a day counted from 0001-01-01, the day with number 1, if it is supported. -/
def ofOrdinal? (n : Int32) : Option Date :=
  ofDay? (n.toInt - epochOrdinal.toInt)

/-- The date of a year, month and day, if it exists and is supported. -/
def ofCivil? (c : Civil) : Option Date :=
  if c.valid then ofDay? c.toDays else none

def civil (d : Date) : Civil :=
  Civil.ofDays d.day

def text (d : Date) : String :=
  String.ofList d.civil.text

theorem ofDay?_eq_some_iff {n : Int} {d : Date} : ofDay? n = some d ↔ d.day = n := by
  unfold ofDay?
  split
  · rename_i h
    constructor
    · rintro ⟨⟩
      rfl
    · rintro rfl
      rfl
  · rename_i h
    constructor
    · intro e
      cases e
    · rintro rfl
      exact absurd ⟨d.firstDay_le, d.le_lastDay⟩ h

end Date

/-! ## Reading dates -/

def skipBlanks (cs : List Char) : List Char :=
  cs.dropWhile Text.isBlank

/-- Reads the longest run of digits, at most `limit` of them and at least one. -/
def readDigits (limit : Nat) (cs : List Char) : Option (Nat × List Char) :=
  let ds := (cs.take limit).takeWhile Text.isDigit
  if ds.isEmpty then none else some (Text.ofDigits ds, cs.drop ds.length)

def readChar (c : Char) : List Char → Option (List Char)
  | [] => none
  | d :: cs => if d == c then some cs else none

/-- Reads a year: any number of digits after a sign, at most four without one. -/
def readYear (cs : List Char) : Option (Int × List Char) :=
  match skipBlanks cs with
  | '-' :: rest => (readDigits rest.length rest).map fun (n, r) => (-(n : Int), r)
  | '+' :: rest => (readDigits rest.length rest).map fun (n, r) => ((n : Int), r)
  | rest => (readDigits 4 rest).map fun (n, r) => ((n : Int), r)

/-- Reads a date; nothing may follow it, and it must exist and be supported. -/
def readDate (cs : List Char) : Option Date := do
  let (year, cs) ← readYear cs
  let cs ← readChar '-' cs
  let (month, cs) ← readDigits 2 (skipBlanks cs)
  let cs ← readChar '-' cs
  let (day, cs) ← readDigits 2 (skipBlanks cs)
  if cs.isEmpty then Date.ofCivil? ⟨year, month, day⟩ else none

end Calendar
end Ingest
