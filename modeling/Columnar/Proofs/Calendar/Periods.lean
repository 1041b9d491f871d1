import Columnar.Calendar.Frequency
import Columnar.Proofs.Calendar.Civil
import Columnar.Proofs.Scalar.Wrapping

/-! A period starts on the last first day of a period that is not after the instant. -/

namespace Columnar.Frequency

open Date

def IsFirstDay (f : Frequency) (n : Int) : Prop :=
  match f with
  | daily => True
  | weekly => weekdayOf n = 0
  | monthly => (ofDays n).day = 1
  | yearly => (ofDays n).month = 1 ∧ (ofDays n).day = 1

instance (f : Frequency) (n : Int) : Decidable (f.IsFirstDay n) :=
  match f with
  | daily => inferInstanceAs (Decidable True)
  | weekly => inferInstanceAs (Decidable (weekdayOf n = 0))
  | monthly => inferInstanceAs (Decidable ((ofDays n).day = 1))
  | yearly => inferInstanceAs (Decidable ((ofDays n).month = 1 ∧ (ofDays n).day = 1))

lemma firstDay_monthly (n : Int) :
    firstDay monthly n + daysBeforeEpoch = monthFirst (ofDays n).monthIndex := by
  obtain ⟨h1, h12, -, -, -⟩ := ofDays_month n
  have h := toDays_eq (d := { ofDays n with day := 1 }) h1 h12
  simp only [firstDay, monthIndex] at *
  omega

lemma firstDay_yearly (n : Int) :
    firstDay yearly n + daysBeforeEpoch = monthFirst (12 * (ofDays n).year - 2) := by
  have h := toDays_eq (d := ⟨(ofDays n).year, 1, 1⟩) (by simp) (by simp)
  have hindex : monthIndex ⟨(ofDays n).year, 1, 1⟩ = 12 * (ofDays n).year - 2 := by
    simp only [monthIndex]
    omega
  rw [hindex] at h
  simp only [firstDay] at *
  omega

lemma firstDay_le (f : Frequency) (n : Int) : f.firstDay n ≤ n := by
  obtain ⟨h1, h12, hday, hn, -⟩ := ofDays_month n
  cases f with
  | daily => exact Int.le_refl n
  | weekly =>
    simp only [firstDay]
    omega
  | monthly =>
    have h := firstDay_monthly n
    omega
  | yearly =>
    have h := firstDay_yearly n
    have hle : monthFirst (12 * (ofDays n).year - 2) ≤ monthFirst (ofDays n).monthIndex := by
      apply monthFirst_le
      simp only [monthIndex]
      omega
    omega

lemma isFirstDay_firstDay (f : Frequency) (n : Int) : f.IsFirstDay (f.firstDay n) := by
  obtain ⟨h1, h12, hday, hlen⟩ := isValid_ofDays n
  cases f with
  | daily => trivial
  | weekly =>
    simp only [IsFirstDay, firstDay, weekdayOf]
    omega
  | monthly =>
    have hvalid : IsValid { ofDays n with day := 1 } := ⟨h1, h12, by simp, by simp only; omega⟩
    simp only [IsFirstDay, firstDay, ofDays_toDays hvalid]
  | yearly =>
    have hvalid : IsValid { ofDays n with month := 1, day := 1 } :=
      ⟨by simp, by simp, by simp, by simp [daysInMonth]⟩
    simp only [IsFirstDay, firstDay, ofDays_toDays hvalid, and_self]

lemma not_isFirstDay {f : Frequency} {n b : Int} (hlo : f.firstDay n < b) (hhi : b ≤ n) :
    ¬ f.IsFirstDay b := by
  obtain ⟨h1, h12, hday, hn, hnext⟩ := ofDays_month n
  obtain ⟨hb1, hb12, hbday, hb, hbnext⟩ := ofDays_month b
  intro hfirst
  cases f with
  | daily =>
    simp only [firstDay] at hlo
    omega
  | weekly =>
    simp only [IsFirstDay, firstDay, weekdayOf] at *
    omega
  | monthly =>
    simp only [IsFirstDay] at hfirst
    have h := firstDay_monthly n
    have hlt : (ofDays n).monthIndex < (ofDays b).monthIndex :=
      monthFirst_lt_iff.mp (by omega)
    have hlt' : (ofDays b).monthIndex < (ofDays n).monthIndex + 1 :=
      monthFirst_lt_iff.mp (by omega)
    omega
  | yearly =>
    obtain ⟨hmonth, hfirst⟩ := hfirst
    have h := firstDay_yearly n
    have hlt : 12 * (ofDays n).year - 2 < (ofDays b).monthIndex :=
      monthFirst_lt_iff.mp (by omega)
    have hlt' : (ofDays b).monthIndex < (ofDays n).monthIndex + 1 :=
      monthFirst_lt_iff.mp (by omega)
    simp only [monthIndex] at hlt hlt'
    omega

lemma firstDay_mono (f : Frequency) {m n : Int} (h : m ≤ n) : f.firstDay m ≤ f.firstDay n := by
  have hm := firstDay_le f m
  by_contra hlt
  exact not_isFirstDay (by omega) (by omega : f.firstDay m ≤ n) (isFirstDay_firstDay f m)

def Refines (fine coarse : Frequency) : Prop := ∀ n, coarse.IsFirstDay n → fine.IsFirstDay n

lemma firstDay_firstDay {fine coarse : Frequency} (h : fine.Refines coarse) (n : Int) :
    coarse.firstDay (fine.firstDay n) = coarse.firstDay n := by
  have hfine := firstDay_le fine n
  have hcoarse := firstDay_le coarse n
  have hle : coarse.firstDay n ≤ fine.firstDay n := by
    by_contra hlt
    exact not_isFirstDay (by omega) hcoarse (h _ (isFirstDay_firstDay coarse n))
  apply Int.le_antisymm (firstDay_mono coarse hfine)
  by_contra hlt
  exact not_isFirstDay (by omega) hle (isFirstDay_firstDay coarse n)

/-- Weeks do not end with months or years. -/
def nestings : List (Frequency × Frequency) :=
  [(daily, weekly), (daily, monthly), (daily, yearly), (monthly, yearly)]

theorem refines_iff {fine coarse : Frequency} :
    fine.Refines coarse ↔ fine = coarse ∨ (fine, coarse) ∈ nestings := by
  constructor
  · intro h
    -- 1, 2 and 4 January and 1 February 1970 are first days of different periods
    have hnewYear := h 0
    have hfriday := h 1
    have hsunday := h 3
    have hfebruary := h 31
    revert hnewYear hfriday hsunday hfebruary
    cases fine <;> cases coarse <;> decide
  · rintro (rfl | h)
    · exact fun _ hn => hn
    · cases fine <;> cases coarse <;> first
        | exact fun _ _ => trivial
        | exact fun _ hn => hn.2
        | exact absurd h (by decide)

end Columnar.Frequency

namespace Columnar.Timestamp

lemma ofMillis?_eq_some_iff {x : Int} {t : Timestamp} : ofMillis? x = some t ↔ t.millis = x := by
  simp only [ofMillis?, Option.map_eq_some_iff, Fixed.ofInt?_eq_some_iff]
  constructor
  · rintro ⟨a, ha, rfl⟩
    exact ha
  · intro ht
    exact ⟨t.ticks, ht, rfl⟩

lemma ofMillis?_millis (t : Timestamp) : ofMillis? t.millis = some t :=
  ofMillis?_eq_some_iff.mpr rfl

lemma ext_millis {s t : Timestamp} (h : s.millis = t.millis) : s = t := by
  have hs := ofMillis?_millis s
  rw [h, ofMillis?_millis] at hs
  exact (Option.some.inj hs).symm

end Columnar.Timestamp

namespace Columnar.Frequency

open Timestamp

lemma periodStart_eq_ok_iff {f : Frequency} {t p : Timestamp} {minutes : Int} :
    f.periodStart t minutes = .ok p ↔
      ∃ here midnight : Timestamp, here.millis = t.millis + minutes * millisPerMinute ∧
        midnight.millis = f.firstDay here.days * millisPerDay ∧
        p.millis = midnight.millis - minutes * millisPerMinute := by
  simp only [periodStart]
  constructor
  · intro h
    split at h
    next start hstart =>
      cases h
      simp only [Option.bind_eq_bind, Option.bind_eq_some_iff, ofMillis?_eq_some_iff] at hstart
      obtain ⟨here, hhere, midnight, hmidnight, hp⟩ := hstart
      exact ⟨here, midnight, hhere, hmidnight, hp⟩
    next => cases h
  · rintro ⟨here, midnight, hhere, hmidnight, hp⟩
    rw [← hhere, ofMillis?_millis]
    simp only [Option.bind_eq_bind, Option.bind_some]
    rw [← hmidnight, ofMillis?_millis]
    simp only [Option.bind_some]
    rw [← hp, ofMillis?_millis]

lemma periodStart_error {f : Frequency} {t : Timestamp} {minutes : Int} {e : Error}
    (h : f.periodStart t minutes = .error e) : e = .overflow "timestamp" := by
  simp only [periodStart] at h
  split at h
  · cases h
  · cases h
    rfl

lemma periodStart_mono {f : Frequency} {s t p q : Timestamp} {minutes : Int}
    (hs : f.periodStart s minutes = .ok p) (ht : f.periodStart t minutes = .ok q)
    (h : s.millis ≤ t.millis) : p.millis ≤ q.millis := by
  obtain ⟨here, midnight, hhere, hmidnight, hp⟩ := periodStart_eq_ok_iff.mp hs
  obtain ⟨here', midnight', hhere', hmidnight', hq⟩ := periodStart_eq_ok_iff.mp ht
  have hday : here.days ≤ here'.days := by
    simp only [days, millisPerDay, millisPerHour, millisPerMinute, millisPerSecond] at *
    omega
  have hfirst := firstDay_mono f hday
  simp only [millisPerDay, millisPerHour, millisPerMinute, millisPerSecond] at *
  omega

lemma periodStart_periodStart {fine coarse : Frequency} {t p : Timestamp} {minutes : Int}
    (hr : fine.Refines coarse) (h : fine.periodStart t minutes = .ok p) :
    coarse.periodStart p minutes = coarse.periodStart t minutes := by
  obtain ⟨here, midnight, hhere, hmidnight, hp⟩ := periodStart_eq_ok_iff.mp h
  have hlocal : p.millis + minutes * millisPerMinute = midnight.millis := by omega
  have hday : midnight.days = fine.firstDay here.days := by
    simp only [days, hmidnight, millisPerDay, millisPerHour, millisPerMinute, millisPerSecond]
    omega
  simp only [periodStart, hlocal, ← hhere, ofMillis?_millis, Option.bind_eq_bind, Option.bind_some]
  rw [hday, firstDay_firstDay hr]

end Columnar.Frequency
