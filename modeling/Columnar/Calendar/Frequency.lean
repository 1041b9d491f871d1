import Columnar.Calendar.Timestamp

/-! A period of a zone is identified by its first midnight, as an instant. -/

namespace Columnar

inductive Frequency where
  | daily
  | weekly
  | monthly
  | yearly
deriving DecidableEq

namespace Frequency

def default : Frequency := daily

def name : Frequency → String
  | daily => "daily"
  | weekly => "weekly"
  | monthly => "monthly"
  | yearly => "yearly"

def names : List (String × Frequency) :=
  [("daily", daily), ("weekly", weekly), ("monthly", monthly), ("yearly", yearly)]

def inspect : Frequency → String
  | daily => "Daily"
  | weekly => "Weekly"
  | monthly => "Monthly"
  | yearly => "Yearly"

instance : Codec Frequency where
  encode f := .ofString f.name
  decode _ := Json.decodeName names

def firstDay (f : Frequency) (days : Int) : Int :=
  match f with
  | daily => days
  | weekly => days - Date.weekdayOf days
  | monthly => { Date.ofDays days with day := 1 }.toDays
  | yearly => { Date.ofDays days with month := 1, day := 1 }.toDays

def periodStart (f : Frequency) (t : Timestamp) (offsetMinutes : Int) : Result Timestamp :=
  let offset := offsetMinutes * Timestamp.millisPerMinute
  let start? := do
    let here ← Timestamp.ofMillis? (t.millis + offset)
    let midnight ← Timestamp.ofMillis? (f.firstDay here.days * Timestamp.millisPerDay)
    Timestamp.ofMillis? (midnight.millis - offset)
  match start? with
  | some start => .ok start
  | none => .error (.overflow "timestamp")

end Frequency

end Columnar
