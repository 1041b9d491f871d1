/-! The proleptic Gregorian calendar. Years are counted from March, so that a leap day ends its
year, in eras of 400 years. -/

namespace Columnar

structure Date where
  year : Int
  month : Nat
  day : Nat
deriving DecidableEq

namespace Date

def IsLeapYear (year : Int) : Prop := (year % 4 = 0 ∧ year % 100 ≠ 0) ∨ year % 400 = 0

instance (year : Int) : Decidable (IsLeapYear year) :=
  inferInstanceAs (Decidable ((year % 4 = 0 ∧ year % 100 ≠ 0) ∨ year % 400 = 0))

def daysInMonth (year : Int) (month : Nat) : Nat :=
  match month with
  | 1 | 3 | 5 | 7 | 8 | 10 | 12 => 31
  | 4 | 6 | 9 | 11 => 30
  | 2 => if IsLeapYear year then 29 else 28
  | _ => 0

def IsValid (d : Date) : Prop :=
  1 ≤ d.month ∧ d.month ≤ 12 ∧ 1 ≤ d.day ∧ d.day ≤ daysInMonth d.year d.month

instance (d : Date) : Decidable d.IsValid :=
  inferInstanceAs (Decidable (_ ∧ _ ∧ _ ∧ _))

def daysPerEra : Int := 146097

/-- The days from March 1st of the year 0 to January 1st 1970. -/
def daysBeforeEpoch : Int := 719468

def monthStart (m : Int) : Int := (153 * m + 2) / 5

def yearStart (y : Int) : Int := y * 365 + y / 4 - y / 100

def toDays (d : Date) : Int :=
  let year := if d.month ≤ 2 then d.year - 1 else d.year
  let era := year / 400
  let yearOfEra := year - era * 400
  let month := ((d.month : Int) + 9) % 12
  let dayOfYear := monthStart month + d.day - 1
  era * daysPerEra + (yearStart yearOfEra + dayOfYear) - daysBeforeEpoch

def ofDays (days : Int) : Date :=
  let n := days + daysBeforeEpoch
  let era := n / daysPerEra
  let dayOfEra := n - era * daysPerEra
  let yearOfEra := (dayOfEra - dayOfEra / 1460 + dayOfEra / 36524 - dayOfEra / 146096) / 365
  let dayOfYear := dayOfEra - yearStart yearOfEra
  let m := (5 * dayOfYear + 2) / 153
  let month := if m < 10 then m + 3 else m - 9
  { year := yearOfEra + era * 400 + (if month ≤ 2 then 1 else 0)
    month := month.toNat
    day := (dayOfYear - monthStart m + 1).toNat }

/-- The day of the week, 0 for Sunday. -/
def weekdayOf (days : Int) : Nat := ((days + 4) % 7).toNat

def next (d : Date) : Date :=
  if d.day < daysInMonth d.year d.month then { d with day := d.day + 1 }
  else if d.month < 12 then { d with month := d.month + 1, day := 1 }
  else ⟨d.year + 1, 1, 1⟩

end Date

end Columnar
