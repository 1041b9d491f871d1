import Columnar.Proofs.Calendar.Overflow
import Columnar.Proofs.Calendar.Periods
import Columnar.Proofs.Result
import Mathlib.Logic.Function.Iterate

/-! A date and a time of day make an instant if it fits, except on the first day that has instants:
its midnight comes before them all. -/

namespace Columnar

namespace Date

variable {d : Date} {n : Int}

/-- Counted day by day from January 1st 1970, forward or back. -/
def IsDayNumber (d : Date) (n : Int) : Prop := next^[n.toNat] ⟨1970, 1, 1⟩ = next^[(-n).toNat] d

lemma isValid_iterate_next (h : d.IsValid) (k : Nat) : (next^[k] d).IsValid := by
  induction k with
  | zero => exact h
  | succ k ih =>
    rw [Function.iterate_succ_apply']
    exact isValid_next ih

lemma toDays_iterate_next (h : d.IsValid) (k : Nat) : (next^[k] d).toDays = d.toDays + k := by
  induction k with
  | zero => simp
  | succ k ih =>
    rw [Function.iterate_succ_apply', toDays_next (isValid_iterate_next h k), ih]
    omega

lemma isDayNumber_iff (h : d.IsValid) : d.IsDayNumber n ↔ n = d.toDays := by
  have hepoch : IsValid ⟨1970, 1, 1⟩ := by decide
  have hzero : toDays ⟨1970, 1, 1⟩ = 0 := by decide
  have hforward := toDays_iterate_next hepoch n.toNat
  have hback := toDays_iterate_next h (-n).toNat
  rw [hzero] at hforward
  rw [IsDayNumber]
  constructor
  · intro hmeet
    rw [hmeet, hback] at hforward
    omega
  · intro hn
    apply eq_of_toDays_eq (isValid_iterate_next hepoch _) (isValid_iterate_next h _)
    omega

end Date

namespace Timestamp

open Date

def IsTimeOfDay (hour minute second : Nat) : Prop := hour < 24 ∧ minute < 60 ∧ second < 60

instance (hour minute second : Nat) : Decidable (IsTimeOfDay hour minute second) :=
  inferInstanceAs (Decidable (_ ∧ _ ∧ _))

def timeOfDay (hour minute second : Nat) : Int :=
  hour * millisPerHour + minute * millisPerMinute + second * millisPerSecond

def firstDay : Int := days ⟨.least .int64⟩

def defect? (d : Date) (hour minute second : Nat) : Option Defect :=
  if d.month < 1 ∨ 12 < d.month then some (.monthOutOfRange d.month)
  else if d.day = 0 ∨ daysInMonth d.year d.month < d.day then
    some (.dayOutOfRange d.year d.month d.day)
  else if 24 ≤ hour ∨ 60 ≤ minute ∨ 60 ≤ second then some (.timeOutOfRange hour minute second)
  else none

section Parts

variable {d : Date} {hour minute second : Nat} {n : Int}

lemma defect?_eq_none_iff :
    defect? d hour minute second = none ↔ d.IsValid ∧ IsTimeOfDay hour minute second := by
  simp only [defect?, IsValid, IsTimeOfDay]
  constructor
  · intro h
    split at h
    · cases h
    split at h
    · cases h
    split at h
    · cases h
    omega
  · intro h
    rw [if_neg (by omega), if_neg (by omega), if_neg (by omega)]

lemma ofDateTime_of_defect {cause : Defect} (h : defect? d hour minute second = some cause) :
    ofDateTime d hour minute second = .error (.invalidData cause) := by
  simp only [defect?] at h
  simp only [ofDateTime, Bool.or_eq_true, decide_eq_true_eq, or_assoc]
  split at h
  case isTrue hmonth =>
    cases h
    rw [if_pos hmonth]
    rfl
  case isFalse hmonth =>
    rw [if_neg hmonth]
    split at h
    case isTrue hday =>
      cases h
      rw [if_pos hday]
      rfl
    case isFalse hday =>
      rw [if_neg hday]
      split at h
      case isTrue htime =>
        cases h
        rw [if_pos htime]
        rfl
      case isFalse => cases h

lemma ofDateTime_of_valid (h : d.IsValid ∧ IsTimeOfDay hour minute second) :
    ofDateTime d hour minute second =
      (ofDays d.toDays >>= fun midnight => midnight.addMillis (timeOfDay hour minute second)) := by
  obtain ⟨⟨h1, h12, hday, hlen⟩, hhour, hminute, hsecond⟩ := h
  have hmonth : ¬ (d.month < 1 ∨ 12 < d.month) := by omega
  have hdays : ¬ (d.day = 0 ∨ daysInMonth d.year d.month < d.day) := by omega
  have htime : ¬ (24 ≤ hour ∨ 60 ≤ minute ∨ 60 ≤ second) := by omega
  simp only [ofDateTime, Bool.or_eq_true, decide_eq_true_eq, or_assoc]
  rw [if_neg hmonth, if_neg hdays, if_neg htime]
  rfl

lemma ofMillis?_eq_none_iff {x : Int} : ofMillis? x = none ↔ ¬ IntegerType.int64.Fits x := by
  rw [ofMillis?, Fixed.ofInt?, Option.map_eq_none_iff, dite_eq_right_iff]
  simp

lemma ofDays_of_fits (h : IntegerType.int64.Fits (n * millisPerDay)) :
    ofDays n = .ok ⟨⟨n * millisPerDay, h⟩⟩ := by
  have hmillis : ofMillis? (n * millisPerDay) = some ⟨⟨n * millisPerDay, h⟩⟩ :=
    ofMillis?_eq_some_iff.mpr rfl
  rw [ofDays, hmillis]

lemma ofDays_of_not_fits (h : ¬ IntegerType.int64.Fits (n * millisPerDay)) :
    ofDays n = .error (.overflow "days") := by
  rw [ofDays, ofMillis?_eq_none_iff.mpr h]

lemma addMillis_of_fits {t u : Timestamp} {x : Int} (h : u.millis = t.millis + x) :
    t.addMillis x = .ok u := by
  rw [addMillis, ofMillis?_eq_some_iff.mpr h]

lemma addMillis_of_not_fits {t : Timestamp} {x : Int}
    (h : ¬ IntegerType.int64.Fits (t.millis + x)) :
    t.addMillis x = .error (.overflow "millis") := by
  rw [addMillis, ofMillis?_eq_none_iff.mpr h]

lemma timeOfDay_bounds (h : IsTimeOfDay hour minute second) :
    0 ≤ timeOfDay hour minute second ∧ timeOfDay hour minute second < millisPerDay := by
  obtain ⟨hhour, hminute, hsecond⟩ := h
  simp only [timeOfDay, millisPerDay, millisPerHour, millisPerMinute, millisPerSecond]
  omega

lemma firstDay_eq : firstDay = -106751991168 := by decide

lemma fits_midnight_iff {time : Int} (h0 : 0 ≤ time) (h1 : time < millisPerDay)
    (h : IntegerType.int64.Fits (n * millisPerDay + time)) :
    IntegerType.int64.Fits (n * millisPerDay) ↔ n ≠ firstDay := by
  rw [firstDay_eq]
  simp only [fits_int64_iff, millisPerDay, millisPerHour, millisPerMinute, millisPerSecond] at *
  omega

lemma not_fits_firstDay : ¬ IntegerType.int64.Fits (firstDay * millisPerDay) := by decide

section Valid

variable (h : d.IsValid ∧ IsTimeOfDay hour minute second)

include h

lemma ofDateTime_of_midnight (hmidnight : ¬ IntegerType.int64.Fits (d.toDays * millisPerDay)) :
    ofDateTime d hour minute second = .error (.overflow "days") := by
  rw [ofDateTime_of_valid h, ofDays_of_not_fits hmidnight]
  rfl

lemma ofDateTime_of_fits {t : Timestamp} (hday : d.toDays ≠ firstDay)
    (ht : t.millis = d.toDays * millisPerDay + timeOfDay hour minute second) :
    ofDateTime d hour minute second = .ok t := by
  obtain ⟨h0, h1⟩ := timeOfDay_bounds h.2
  have hfits : IntegerType.int64.Fits (d.toDays * millisPerDay + timeOfDay hour minute second) :=
    ht ▸ t.ticks.fits
  rw [ofDateTime_of_valid h, ofDays_of_fits ((fits_midnight_iff h0 h1 hfits).mpr hday)]
  exact addMillis_of_fits ht

lemma ofDateTime_of_not_fits
    (hfits : ¬ IntegerType.int64.Fits (d.toDays * millisPerDay + timeOfDay hour minute second)) :
    ∃ name, ofDateTime d hour minute second = .error (.overflow name) := by
  by_cases hmidnight : IntegerType.int64.Fits (d.toDays * millisPerDay)
  · refine ⟨"millis", ?_⟩
    rw [ofDateTime_of_valid h, ofDays_of_fits hmidnight]
    exact addMillis_of_not_fits hfits
  · exact ⟨"days", ofDateTime_of_midnight h hmidnight⟩

end Valid

lemma ofDateTime_eq_invalidData_iff {cause : Defect} :
    ofDateTime d hour minute second = .error (.invalidData cause) ↔
      defect? d hour minute second = some cause := by
  constructor
  · intro herror
    cases hdefect : defect? d hour minute second with
    | some other =>
      rw [ofDateTime_of_defect hdefect] at herror
      cases herror
      rfl
    | none =>
      have hvalid := defect?_eq_none_iff.mp hdefect
      by_cases hmidnight : IntegerType.int64.Fits (d.toDays * millisPerDay)
      · rw [ofDateTime_of_valid hvalid, ofDays_of_fits hmidnight] at herror
        change addMillis _ _ = _ at herror
        rw [addMillis] at herror
        split at herror
        · cases herror
        · cases herror
      · rw [ofDateTime_of_midnight hvalid hmidnight] at herror
        cases herror
  · exact ofDateTime_of_defect

end Parts

def hour (t : Timestamp) : Nat := (t.millisOfDay / millisPerHour).toNat

def minute (t : Timestamp) : Nat := (t.millisOfDay % millisPerHour / millisPerMinute).toNat

def second (t : Timestamp) : Nat := (t.millisOfDay % millisPerMinute / millisPerSecond).toNat

lemma isTimeOfDay (t : Timestamp) : IsTimeOfDay t.hour t.minute t.second := by
  simp only [IsTimeOfDay, hour, minute, second, millisOfDay, millisPerDay, millisPerHour,
    millisPerMinute, millisPerSecond]
  omega

lemma millis_eq (t : Timestamp) (hwhole : t.millis % millisPerSecond = 0) :
    t.millis = t.date.toDays * millisPerDay + timeOfDay t.hour t.minute t.second := by
  rw [date, toDays_ofDays]
  simp only [timeOfDay, hour, minute, second, millisOfDay, days, millisPerDay, millisPerHour,
    millisPerMinute, millisPerSecond] at *
  omega

lemma fits_year (t : Timestamp) : IntegerType.int32.Fits t.date.year := by
  obtain ⟨hlo, hhi⟩ := days_bounds t
  obtain ⟨hstart, hnext⟩ := marchYear_bounds (t.days + daysBeforeEpoch)
  obtain ⟨hyear, hyear'⟩ := year_ofDays_bounds t.days
  simp only [fits_int32_iff, date, daysBeforeEpoch, marchStart] at *
  omega

/-- A date and a time of day give the instant that is so many milliseconds from the epoch, an
overflow where it does not fit, and an overflow on all of the first day; an instant of whole seconds
on a later day is given back by its date and time. -/
theorem ofDateTime_exact (d : Date) (hour minute second : ℕ) (t : Timestamp) :
    (((∃ cause, ofDateTime d hour minute second = .error (.invalidData cause)) ↔
        ¬ (d.IsValid ∧ IsTimeOfDay hour minute second)) ∧
      ∀ cause, ofDateTime d hour minute second = .error (.invalidData cause) ↔
        defect? d hour minute second = some cause) ∧
    (d.IsValid ∧ IsTimeOfDay hour minute second →
      ∃ n, (∀ m, d.IsDayNumber m ↔ m = n) ∧
        (n ≠ firstDay → IntegerType.int64.Fits (n * millisPerDay + timeOfDay hour minute second) →
          ∃ u : Timestamp, ofDateTime d hour minute second = .ok u ∧
            u.millis = n * millisPerDay + timeOfDay hour minute second) ∧
        (¬ IntegerType.int64.Fits (n * millisPerDay + timeOfDay hour minute second) →
          ∃ name, ofDateTime d hour minute second = .error (.overflow name)) ∧
        (n = firstDay → ofDateTime d hour minute second = .error (.overflow "days"))) ∧
    (t.millis % millisPerSecond = 0 →
      IntegerType.int32.Fits t.date.year ∧
      ofDateTime t.date t.hour t.minute t.second =
        if t.days = firstDay then .error (.overflow "days") else .ok t) := by
  refine ⟨⟨?_, fun cause => ofDateTime_eq_invalidData_iff⟩, ?_, ?_⟩
  · simp only [ofDateTime_eq_invalidData_iff, ← Option.ne_none_iff_exists',
      ← defect?_eq_none_iff, ne_eq]
  · intro h
    refine ⟨d.toDays, fun m => isDayNumber_iff h.1, ?_, ofDateTime_of_not_fits h, ?_⟩
    · intro hday hfits
      exact ⟨⟨⟨_, hfits⟩⟩, ofDateTime_of_fits h hday rfl, rfl⟩
    · intro hday
      apply ofDateTime_of_midnight h
      rw [hday]
      exact not_fits_firstDay
  · intro hwhole
    have hvalid : t.date.IsValid ∧ IsTimeOfDay t.hour t.minute t.second :=
      ⟨isValid_ofDays t.days, isTimeOfDay t⟩
    have hday : t.date.toDays = t.days := toDays_ofDays t.days
    refine ⟨fits_year t, ?_⟩
    by_cases hfirst : t.days = firstDay
    · rw [if_pos hfirst]
      apply ofDateTime_of_midnight hvalid
      rw [hday, hfirst]
      exact not_fits_firstDay
    · rw [if_neg hfirst]
      exact ofDateTime_of_fits hvalid (hday ▸ hfirst) (millis_eq t hwhole)

theorem ofDateTime_first_second :
    let d : Date := ⟨-292275055, 5, 16⟩
    d.IsValid ∧ IsTimeOfDay 16 47 5 ∧ d.IsDayNumber (-106751991168) ∧
      IntegerType.int64.Fits (-106751991168 * millisPerDay + timeOfDay 16 47 5) ∧
      ofDateTime d 16 47 5 = .error (.overflow "days") := by
  refine ⟨by decide, by decide, (isDayNumber_iff (by decide)).mpr (by decide), by decide, by decide⟩

end Timestamp

end Columnar
