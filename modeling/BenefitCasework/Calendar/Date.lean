/-!
Contract: days of the proleptic Gregorian calendar.

Owns:
- `Date`, a day that exists, with a year from -262143 to 262142;
- `Date.next?` and `Date.previous?`, the neighbouring days;
- `Date.Before`, the order of days;
- `Date.wholeYearsSince?`, how often a day of the year has come round.

Does not own: times of day, and the text of a day.
-/

namespace BenefitCasework

def isLeapYear (year : Int) : Bool :=
  year % 4 == 0 && (year % 100 != 0 || year % 400 == 0)

def daysInMonth (year : Int) (month : Nat) : Nat :=
  if month = 2 then (if isLeapYear year then 29 else 28)
  else if month = 4 ∨ month = 6 ∨ month = 9 ∨ month = 11 then 30
  else 31

def Date.Valid (year : Int) (month day : Nat) : Prop :=
  -262143 ≤ year ∧ year ≤ 262142 ∧ 1 ≤ month ∧ month ≤ 12 ∧ 1 ≤ day ∧ day ≤ daysInMonth year month

instance (year : Int) (month day : Nat) : Decidable (Date.Valid year month day) := by
  unfold Date.Valid
  infer_instance

/-- A day of the calendar. -/
structure Date where
  year : Int
  month : Nat
  day : Nat
  valid : Date.Valid year month day
deriving DecidableEq

namespace Date

/-- The day with the given year, month and day of the month. -/
def ofParts? (year : Int) (month day : Nat) : Option Date :=
  if valid : Valid year month day then some ⟨year, month, day, valid⟩ else none

def next? (date : Date) : Option Date :=
  if date.day < daysInMonth date.year date.month then ofParts? date.year date.month (date.day + 1)
  else if date.month < 12 then ofParts? date.year (date.month + 1) 1
  else ofParts? (date.year + 1) 1 1

def previous? (date : Date) : Option Date :=
  if 1 < date.day then ofParts? date.year date.month (date.day - 1)
  else if 1 < date.month then
    ofParts? date.year (date.month - 1) (daysInMonth date.year (date.month - 1))
  else ofParts? (date.year - 1) 12 31

/-- One triple of year, month and day comes before another. -/
def PartsBefore (left right : Int × Nat × Nat) : Prop :=
  left.1 < right.1 ∨ (left.1 = right.1 ∧
    (left.2.1 < right.2.1 ∨ (left.2.1 = right.2.1 ∧ left.2.2 < right.2.2)))

instance (left right : Int × Nat × Nat) : Decidable (PartsBefore left right) := by
  unfold PartsBefore
  infer_instance

def parts (date : Date) : Int × Nat × Nat := (date.year, date.month, date.day)

def Before (left right : Date) : Prop := PartsBefore left.parts right.parts

instance (left right : Date) : Decidable (Before left right) := by
  unfold Before
  infer_instance

/-- How often the day of the year has come round since a first day; nothing
when the first day is yet to come. -/
def wholeYearsSince? (date first : Date) : Option Nat :=
  let years := date.year - first.year
  let full := if date.month * 32 + date.day < first.month * 32 + first.day then years - 1 else years
  if 0 ≤ full then some full.toNat else none

/-- A month has at most thirty-one days. -/
theorem day_lt (date : Date) : date.day < 32 := by
  have bound := date.valid.2.2.2.2.2
  have short : daysInMonth date.year date.month ≤ 31 := by
    unfold daysInMonth
    repeat' split
    all_goals omega
  omega

end Date

end BenefitCasework
