import Columnar.Proofs.Calendar.DateTimes
import Columnar.Proofs.Decimal.Padded
import Mathlib.Data.String.Basic

/-! The text of an instant has its date and its time of day in fields, the greatest unit first. -/

namespace Columnar

namespace Date

variable {d e : Date}

lemma before_iff (hd : d.IsValid) (he : e.IsValid) : d.Before e ↔
    d.year < e.year ∨ d.year = e.year ∧
    (d.month < e.month ∨ d.month = e.month ∧ d.day < e.day) := by
  obtain ⟨h1, h12, -, -⟩ := hd
  obtain ⟨h1', h12', -, -⟩ := he
  simp only [Before, monthIndex]
  omega

lemma before_trichotomy (d e : Date) :
    d.Before e ∨ d.monthIndex = e.monthIndex ∧ d.day = e.day ∨ e.Before d := by
  simp only [Before]
  omega

lemma toDays_lt_toDays_iff (hd : d.IsValid) (he : e.IsValid) :
    d.toDays < e.toDays ↔ d.Before e := by
  constructor
  · intro h
    rcases before_trichotomy d e with hbefore | ⟨hmonth, hday⟩ | hafter
    · exact hbefore
    · rw [toDays_eq hd.1 hd.2.1, toDays_eq he.1 he.2.1, hmonth, hday] at h
      exact absurd h (lt_irrefl _)
    · exact absurd (toDays_lt_toDays he hd hafter) h.asymm
  · exact toDays_lt_toDays hd he

end Date

namespace Timestamp

open Date Decimal

variable {t u : Timestamp}

def millisecond (t : Timestamp) : ℕ := (t.millisOfDay % millisPerSecond).toNat

lemma millisecond_lt (t : Timestamp) : t.millisecond < 1000 := by
  simp only [millisecond, millisPerSecond]
  omega

lemma millisOfDay_eq (t : Timestamp) :
    t.millisOfDay = timeOfDay t.hour t.minute t.second + t.millisecond := by
  simp only [timeOfDay, hour, minute, second, millisecond, millisOfDay, millisPerDay, millisPerHour,
    millisPerMinute, millisPerSecond]
  omega

lemma millis_eq_fields (t : Timestamp) :
    t.millis = (((t.days * 24 + t.hour) * 60 + t.minute) * 60 + t.second) * 1000 +
      t.millisecond := by
  have hsplit : t.millis = t.days * millisPerDay + t.millisOfDay :=
    (Int.ediv_mul_add_emod t.millis _).symm
  rw [hsplit, millisOfDay_eq]
  simp only [timeOfDay, millisPerDay, millisPerHour, millisPerMinute, millisPerSecond]
  omega

lemma millisOfDay_lt_iff (t u : Timestamp) : t.millisOfDay < u.millisOfDay ↔
    t.hour < u.hour ∨ t.hour = u.hour ∧ (t.minute < u.minute ∨ t.minute = u.minute ∧
      (t.second < u.second ∨ t.second = u.second ∧ t.millisecond < u.millisecond)) := by
  obtain ⟨-, hminute, hsecond⟩ := isTimeOfDay t
  obtain ⟨-, hminute', hsecond'⟩ := isTimeOfDay u
  have hmillisecond := millisecond_lt t
  have hmillisecond' := millisecond_lt u
  rw [millisOfDay_eq, millisOfDay_eq]
  simp only [timeOfDay, millisPerHour, millisPerMinute, millisPerSecond]
  omega

def clock (t : Timestamp) : List Char :=
  padded 2 t.hour ++ ':' :: (padded 2 t.minute ++ ':' :: (padded 2 t.second ++
    '.' :: (padded 3 t.millisecond ++ ['Z'])))

def afterYear (t : Timestamp) : List Char :=
  '-' :: (padded 2 t.date.month ++ '-' :: (padded 2 t.date.day ++ 'T' :: t.clock))

lemma text_eq (t : Timestamp) : t.text = padded 4 t.date.year ++ t.afterYear := by
  obtain ⟨hhour, hminute, hsecond, hmillisecond⟩ : (t.hour : ℤ) = t.millisOfDay / millisPerHour ∧
      (t.minute : ℤ) = t.millisOfDay % millisPerHour / millisPerMinute ∧
      (t.second : ℤ) = t.millisOfDay % millisPerMinute / millisPerSecond ∧
      (t.millisecond : ℤ) = t.millisOfDay % millisPerSecond := by
    simp only [hour, minute, second, millisecond, millisOfDay, millisPerDay, millisPerHour,
      millisPerMinute, millisPerSecond]
    omega
  simp only [text, afterYear, clock, hhour, hminute, hsecond, hmillisecond, List.append_assoc,
    List.cons_append]

structure FieldsFit (t : Timestamp) : Prop where
  month : FitsWidth 2 t.date.month
  day : FitsWidth 2 t.date.day
  hour : FitsWidth 2 t.hour
  minute : FitsWidth 2 t.minute
  second : FitsWidth 2 t.second
  millisecond : FitsWidth 3 t.millisecond

lemma fieldsFit (t : Timestamp) : t.FieldsFit := by
  obtain ⟨-, hmonth, -, hday⟩ := isValid_ofDays t.days
  have hlen := daysInMonth_le t.date.year t.date.month
  obtain ⟨hhour, hminute, hsecond⟩ := isTimeOfDay t
  have hmillisecond := millisecond_lt t
  refine ⟨?_, ?_, ?_, ?_, ?_, ?_⟩
  all_goals
    simp only [FitsWidth, date] at *
    omega

lemma length_afterYear (t : Timestamp) : t.afterYear.length = 20 := by
  have h := fieldsFit t
  simp [afterYear, clock, length_padded, h.month, h.day, h.hour, h.minute, h.second, h.millisecond]

lemma clock_lt_iff (t u : Timestamp) : t.clock < u.clock ↔ t.millisOfDay < u.millisOfDay := by
  have ht := fieldsFit t
  have hu := fieldsFit u
  simp only [clock, List.cons_lt_cons_self, padded_append_lt_iff two_pos ht.hour hu.hour,
    padded_append_lt_iff two_pos ht.minute hu.minute,
    padded_append_lt_iff two_pos ht.second hu.second,
    padded_append_lt_iff three_pos ht.millisecond hu.millisecond, List.lt_irrefl,
    and_false, or_false, Int.ofNat_lt, Int.natCast_inj, millisOfDay_lt_iff]

lemma afterYear_lt_iff (t u : Timestamp) : t.afterYear < u.afterYear ↔
    t.date.month < u.date.month ∨ t.date.month = u.date.month ∧
      (t.date.day < u.date.day ∨ t.date.day = u.date.day ∧ t.millisOfDay < u.millisOfDay) := by
  have ht := fieldsFit t
  have hu := fieldsFit u
  simp only [afterYear, List.cons_lt_cons_self, padded_append_lt_iff two_pos ht.month hu.month,
    padded_append_lt_iff two_pos ht.day hu.day, clock_lt_iff, Int.ofNat_lt, Int.natCast_inj]

lemma days_lt_iff (t u : Timestamp) : t.days < u.days ↔
    t.date.year < u.date.year ∨ t.date.year = u.date.year ∧
      (t.date.month < u.date.month ∨ t.date.month = u.date.month ∧ t.date.day < u.date.day) := by
  have h := toDays_lt_toDays_iff (isValid_ofDays t.days) (isValid_ofDays u.days)
  rwa [toDays_ofDays, toDays_ofDays,
    before_iff (isValid_ofDays t.days) (isValid_ofDays u.days)] at h

lemma millis_lt_iff (t u : Timestamp) :
    t.millis < u.millis ↔ t.days < u.days ∨ t.days = u.days ∧ t.millisOfDay < u.millisOfDay := by
  simp only [days, millisOfDay, millisPerDay, millisPerHour, millisPerMinute, millisPerSecond]
  omega

lemma length_text (h : FitsWidth 4 t.date.year) : t.text.length = 24 := by
  rw [text_eq, List.length_append, length_padded four_pos h, length_afterYear]

lemma text_lt_iff (ht : FitsWidth 4 t.date.year) (hu : FitsWidth 4 u.date.year) :
    t.text < u.text ↔ t.millis < u.millis := by
  have hdays := days_lt_iff t u
  have hdays' := days_lt_iff u t
  rw [text_eq, text_eq, padded_append_lt_iff four_pos ht hu, afterYear_lt_iff, millis_lt_iff]
  omega

lemma text_injective : Function.Injective text := by
  intro t u h
  rw [text_eq, text_eq] at h
  obtain ⟨hpadded, hrest⟩ :=
    List.append_inj' h ((length_afterYear t).trans (length_afterYear u).symm)
  have hyear := padded_injective 4 hpadded
  -- of equal texts neither is before the other, so none of the fields is
  have hlt := afterYear_lt_iff t u
  have hgt := afterYear_lt_iff u t
  rw [hrest, iff_false_left (List.lt_irrefl _)] at hlt hgt
  have hdays := days_lt_iff t u
  have hdays' := days_lt_iff u t
  have hmillis := millis_lt_iff t u
  have hmillis' := millis_lt_iff u t
  apply ext_millis
  omega

lemma toList_display (t : Timestamp) : (display t).toList = t.text := String.toList_ofList

lemma display_eq (t : Timestamp) : display t =
    zeroPadded 4 t.date.year ++ "-" ++ zeroPadded 2 t.date.month ++ "-" ++
      zeroPadded 2 t.date.day ++ "T" ++
      zeroPadded 2 t.hour ++ ":" ++ zeroPadded 2 t.minute ++ ":" ++ zeroPadded 2 t.second ++ "." ++
      zeroPadded 3 t.millisecond ++ "Z" := by
  apply String.toList_inj.mp
  rw [toList_display, text_eq, afterYear, clock]
  simp [zeroPadded]

def HasFourDigitYear (t : Timestamp) : Prop := 0 ≤ t.date.year ∧ t.date.year ≤ 9999

instance (t : Timestamp) : Decidable t.HasFourDigitYear := inferInstanceAs (Decidable (_ ∧ _))

lemma HasFourDigitYear.fitsWidth (h : t.HasFourDigitYear) : FitsWidth 4 t.date.year := by
  simp only [HasFourDigitYear] at h
  simp only [FitsWidth]
  omega

theorem display_orders_instants (t : Timestamp) :
    (t.date.IsValid ∧ t.date.IsDayNumber t.days ∧
      ∃ hour minute second millisecond : ℕ, hour < 24 ∧ minute < 60 ∧ second < 60 ∧
        millisecond < 1000 ∧
        t.millis = (((t.days * 24 + hour) * 60 + minute) * 60 + second) * 1000 + millisecond ∧
        display t =
          zeroPadded 4 t.date.year ++ "-" ++ zeroPadded 2 t.date.month ++ "-" ++
            zeroPadded 2 t.date.day ++ "T" ++
            zeroPadded 2 hour ++ ":" ++ zeroPadded 2 minute ++ ":" ++ zeroPadded 2 second ++ "." ++
            zeroPadded 3 millisecond ++ "Z") ∧
    (∀ u : Timestamp, display t = display u ↔ t = u) ∧
    (t.HasFourDigitYear → (display t).length = 24 ∧
      ∀ u : Timestamp, u.HasFourDigitYear → (display t < display u ↔ t.millis < u.millis)) := by
  obtain ⟨hhour, hminute, hsecond⟩ := isTimeOfDay t
  have hnumber : t.date.IsDayNumber t.days :=
    (isDayNumber_iff (isValid_ofDays t.days)).mpr (toDays_ofDays t.days).symm
  refine ⟨⟨isValid_ofDays t.days, hnumber, t.hour, t.minute, t.second, t.millisecond, hhour,
    hminute, hsecond, millisecond_lt t, millis_eq_fields t, display_eq t⟩, ?_, ?_⟩
  · intro u
    refine ⟨fun h => ?_, congrArg display⟩
    exact text_injective (String.ofList_injective h)
  · intro ht
    refine ⟨?_, ?_⟩
    · exact (String.length_ofList).trans (length_text ht.fitsWidth)
    · intro u hu
      rw [String.lt_iff_toList_lt, toList_display, toList_display]
      exact text_lt_iff ht.fitsWidth hu.fitsWidth

theorem display_orders_instants_at_epoch :
    ∃ t : Timestamp, t.millis = -1 ∧ t.HasFourDigitYear ∧ epoch.HasFourDigitYear ∧
      display t = "1969-12-31T23:59:59.999Z" ∧ display epoch = "1970-01-01T00:00:00.000Z" ∧
      display t ≠ display epoch ∧ (display t).length = 24 ∧ display t < display epoch := by
  let t : Timestamp := ⟨⟨-1, by decide⟩⟩
  have ht : t.HasFourDigitYear := by decide
  have hepoch : epoch.HasFourDigitYear := by decide
  obtain ⟨-, htells, horder⟩ := display_orders_instants t
  obtain ⟨hlength, hlt⟩ := horder ht
  refine ⟨t, rfl, ht, hepoch, by decide +kernel, by decide +kernel, ?_, hlength,
    (hlt epoch hepoch).mpr (by decide)⟩
  exact mt (htells epoch).mp (by decide)

end Timestamp

end Columnar
