import Columnar.Calendar.Date
import Columnar.Json.Codec

namespace Columnar

structure Timestamp where
  ticks : Fixed .int64
deriving DecidableEq

namespace Timestamp

def millisPerSecond : Int := 1000
def millisPerMinute : Int := 60 * millisPerSecond
def millisPerHour : Int := 60 * millisPerMinute
def millisPerDay : Int := 24 * millisPerHour

def epoch : Timestamp := ⟨.zero⟩

def millis (t : Timestamp) : Int := t.ticks.val

def ofMillis? (millis : Int) : Option Timestamp := (Fixed.ofInt? .int64 millis).map .mk

def ofDays (days : Int) : Result Timestamp :=
  match ofMillis? (days * millisPerDay) with
  | some t => .ok t
  | none => .error (.overflow "days")

def addMillis (t : Timestamp) (millis : Int) : Result Timestamp :=
  match ofMillis? (t.millis + millis) with
  | some t => .ok t
  | none => .error (.overflow "millis")

def ofDateTime (d : Date) (hour minute second : Nat) : Result Timestamp := do
  if d.month < 1 || 12 < d.month then
    throw (.invalidData (.monthOutOfRange d.month))
  if d.day = 0 || Date.daysInMonth d.year d.month < d.day then
    throw (.invalidData (.dayOutOfRange d.year d.month d.day))
  if 24 ≤ hour || 60 ≤ minute || 60 ≤ second then
    throw (.invalidData (.timeOutOfRange hour minute second))
  let midnight ← ofDays d.toDays
  midnight.addMillis (hour * millisPerHour + minute * millisPerMinute + second * millisPerSecond)

def ofDate (d : Date) : Result Timestamp := ofDateTime d 0 0 0

def days (t : Timestamp) : Int := t.millis / millisPerDay

def millisOfDay (t : Timestamp) : Int := t.millis % millisPerDay

def date (t : Timestamp) : Date := Date.ofDays t.days

def weekday (t : Timestamp) : Nat := Date.weekdayOf t.days

def text (t : Timestamp) : List Char :=
  let d := t.date
  let ms := t.millisOfDay
  Decimal.padded 4 d.year ++ '-' :: Decimal.padded 2 d.month ++ '-' :: Decimal.padded 2 d.day
    ++ 'T' :: Decimal.padded 2 (ms / millisPerHour)
    ++ ':' :: Decimal.padded 2 (ms % millisPerHour / millisPerMinute)
    ++ ':' :: Decimal.padded 2 (ms % millisPerMinute / millisPerSecond)
    ++ '.' :: Decimal.padded 3 (ms % millisPerSecond) ++ ['Z']

end Timestamp

instance : Inhabited Timestamp := ⟨.epoch⟩

instance : Ordered Timestamp where
  order? s t := some (compare s.millis t.millis)

instance : Legible Timestamp where
  display t := String.ofList t.text
  inspect t := "Timestamp(" ++ Decimal.ofInt t.millis ++ ")"

instance : Codec Timestamp where
  encode t := encode t.ticks
  decode source v := (decode source v).map .mk

end Columnar
