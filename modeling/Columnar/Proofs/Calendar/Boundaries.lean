import Columnar.Proofs.Calendar.Overflow
import Columnar.Proofs.Calendar.Periods
import Mathlib.Order.Bounds.Basic

/-! The start of a period is the greatest boundary not after the instant, and it is found without
overflow except where the local instant, the local midnight or the start is no timestamp. -/

namespace Columnar.Frequency

open Timestamp Date

/-- On the clock of a zone, the first midnight of a period. -/
def IsBoundary (f : Frequency) (clock : Int) : Prop :=
  ∃ n, f.IsFirstDay n ∧ clock = n * millisPerDay

def weekday64? (n : Int) : Option Int := do
  let n ← int64? (n + 4)
  return (Fixed.wrap .uint32 (n % 7)).val

def firstDay64? (f : Frequency) (n : Int) : Option Int :=
  match f with
  | daily => some n
  | weekly => do
    let weekday ← weekday64? n
    int64? (n - weekday)
  | monthly => do
    let d ← ofDays64? n
    toDays64? { d with day := 1 }
  | yearly => do
    let d ← ofDays64? n
    toDays64? { d with month := 1, day := 1 }

def periodStart64? (f : Frequency) (t : Timestamp) (minutes : Fixed .int32) :
    Option (Result Timestamp) := do
  let offset ← int64? (minutes.val * millisPerMinute)
  match ofMillis? (t.millis + offset) with
  | none => return .error (.overflow "timestamp")
  | some here =>
    let first ← f.firstDay64? here.days
    let start? :=
      (ofMillis? (first * millisPerDay)).bind fun midnight => ofMillis? (midnight.millis - offset)
    return match start? with
    | some start => .ok start
    | none => .error (.overflow "timestamp")

lemma weekday64?_eq {n : Int} (h0 : -1152921504606846976 ≤ n) (h1 : n ≤ 1152921504606846976) :
    weekday64? n = some (weekdayOf n) := by
  have hfits : IntegerType.int64.Fits (n + 4) := by
    rw [fits_int64_iff]
    omega
  have hweekday : (Fixed.wrap .uint32 ((n + 4) % 7)).val = weekdayOf n := by
    rw [val_wrap_uint32 (by omega) (by omega), weekdayOf, Int.toNat_of_nonneg (by omega)]
  simp only [weekday64?, int64?_of_fits hfits, Option.bind_eq_bind, Option.bind_some, hweekday]

lemma firstDay64?_eq (f : Frequency) (t : Timestamp) :
    f.firstDay64? t.days = some (f.firstDay t.days) := by
  obtain ⟨hlo, hhi⟩ := days_bounds t
  obtain ⟨hylo, hyhi⟩ := year_ofDays_le (n := t.days) (by omega) (by omega)
  have hdate := ofDays64?_eq (n := t.days) (by omega) (by omega)
  obtain ⟨h1, h12, hday, hlen⟩ := isValid_ofDays t.days
  cases f with
  | daily => rfl
  | weekly =>
    have hfits : IntegerType.int64.Fits (t.days - weekdayOf t.days) := by
      rw [fits_int64_iff, weekdayOf]
      omega
    simp only [firstDay64?, weekday64?_eq (n := t.days) (by omega) (by omega), Option.bind_eq_bind,
      Option.bind_some]
    exact int64?_of_fits hfits
  | monthly =>
    have hvalid : IsValid { Date.ofDays t.days with day := 1 } :=
      ⟨h1, h12, by simp, by simp only; omega⟩
    simp only [firstDay64?, hdate, Option.bind_eq_bind, Option.bind_some]
    exact toDays64?_eq hvalid hylo hyhi
  | yearly =>
    have hvalid : IsValid { Date.ofDays t.days with month := 1, day := 1 } :=
      ⟨by simp, by simp, by simp, by simp [daysInMonth]⟩
    simp only [firstDay64?, hdate, Option.bind_eq_bind, Option.bind_some]
    exact toDays64?_eq hvalid hylo hyhi

lemma periodStart64?_eq (f : Frequency) (t : Timestamp) (minutes : Fixed .int32) :
    f.periodStart64? t minutes = some (f.periodStart t minutes.val) := by
  have hoffset : IntegerType.int64.Fits (minutes.val * millisPerMinute) := by
    have h := fits_int32_iff.mp minutes.fits
    simp only [fits_int64_iff, millisPerMinute, millisPerSecond]
    omega
  simp only [periodStart64?, periodStart, int64?_of_fits hoffset, Option.bind_eq_bind,
    Option.bind_some]
  cases ofMillis? (t.millis + minutes.val * millisPerMinute) with
  | none => rfl
  | some here =>
    simp only [firstDay64?_eq, Option.bind_some]
    rfl

lemma isGreatest_midnight (f : Frequency) (clock : Int) :
    IsGreatest {m | f.IsBoundary m ∧ m ≤ clock}
      (f.firstDay (clock / millisPerDay) * millisPerDay) := by
  have hpos : 0 < millisPerDay := by decide
  constructor
  · refine ⟨⟨_, isFirstDay_firstDay f _, rfl⟩, ?_⟩
    apply le_trans _ (Int.ediv_mul_le clock hpos.ne')
    exact Int.mul_le_mul_of_nonneg_right (firstDay_le f _) hpos.le
  · rintro m ⟨⟨n, hn, rfl⟩, hm⟩
    have hday : n ≤ clock / millisPerDay := Int.le_ediv_of_mul_le hpos hm
    have hfirst : n ≤ f.firstDay (clock / millisPerDay) := by
      by_contra hlt
      exact not_isFirstDay (by omega) hday hn
    exact Int.mul_le_mul_of_nonneg_right hfirst hpos.le

lemma isGreatest_start {f : Frequency} {x offset midnight : Int}
    (h : IsGreatest {m | f.IsBoundary m ∧ m ≤ x + offset} midnight) :
    IsGreatest {b | f.IsBoundary (b + offset) ∧ b ≤ x} (midnight - offset) := by
  obtain ⟨⟨hboundary, hle⟩, hgreatest⟩ := h
  constructor
  · refine ⟨?_, by omega⟩
    rw [Int.sub_add_cancel]
    exact hboundary
  · rintro b ⟨hb, hbx⟩
    have hlast : b + offset ≤ midnight := hgreatest ⟨hb, by omega⟩
    omega

lemma exists_millis_iff {x : Int} : (∃ t : Timestamp, t.millis = x) ↔ IntegerType.int64.Fits x := by
  constructor
  · rintro ⟨t, rfl⟩
    exact t.ticks.fits
  · intro h
    exact ⟨⟨⟨x, h⟩⟩, rfl⟩

lemma exists_periodStart_iff {f : Frequency} {t : Timestamp} {minutes : Int} {midnight : Int}
    (hm : midnight = f.firstDay ((t.millis + minutes * millisPerMinute) / millisPerDay) *
      millisPerDay) :
    (∃ p, f.periodStart t minutes = .ok p) ↔
      IntegerType.int64.Fits (t.millis + minutes * millisPerMinute) ∧
        IntegerType.int64.Fits midnight ∧
        IntegerType.int64.Fits (midnight - minutes * millisPerMinute) := by
  simp only [← exists_millis_iff, periodStart_eq_ok_iff]
  constructor
  · rintro ⟨p, here, m, hhere, hmidnight, hp⟩
    have hm' : m.millis = midnight := by rw [hmidnight, hm, days, hhere]
    exact ⟨⟨here, hhere⟩, ⟨m, hm'⟩, ⟨p, by rw [hp, hm']⟩⟩
  · rintro ⟨⟨here, hhere⟩, ⟨m, hm'⟩, ⟨p, hp⟩⟩
    exact ⟨p, here, m, hhere, by rw [hm', hm, days, hhere], by rw [hp, hm']⟩

lemma periodStart_eq_error_iff {f : Frequency} {t : Timestamp} {minutes : Int} {e : Error} :
    f.periodStart t minutes = .error e ↔
      e = .overflow "timestamp" ∧ ¬ ∃ p, f.periodStart t minutes = .ok p := by
  constructor
  · intro h
    refine ⟨periodStart_error h, ?_⟩
    rintro ⟨p, hp⟩
    rw [h] at hp
    cases hp
  · rintro ⟨rfl, hnone⟩
    cases h : f.periodStart t minutes with
    | ok p => exact absurd ⟨p, h⟩ hnone
    | error e => rw [periodStart_error h]

lemma isGreatest_of_periodStart {f : Frequency} {t p : Timestamp} {minutes : Int}
    (h : f.periodStart t minutes = .ok p) :
    IsGreatest {b | f.IsBoundary (b + minutes * millisPerMinute) ∧ b ≤ t.millis} p.millis := by
  obtain ⟨here, midnight, hhere, hmidnight, hp⟩ := periodStart_eq_ok_iff.mp h
  rw [hp, hmidnight, days, hhere]
  exact isGreatest_start (isGreatest_midnight f _)

theorem periodStart_greatest_boundary (f : Frequency) (t : Timestamp) (minutes : Fixed .int32) :
    let offset := minutes.val * millisPerMinute
    f.periodStart64? t minutes = some (f.periodStart t minutes.val) ∧
    (∀ p, f.periodStart t minutes.val = .ok p →
      IsGreatest {b | f.IsBoundary (b + offset) ∧ b ≤ t.millis} p.millis ∧
      f.periodStart p minutes.val = .ok p ∧
      ∀ t' p', f.periodStart t' minutes.val = .ok p' → t.millis ≤ t'.millis →
        p.millis ≤ p'.millis) ∧
    ∃ midnight, IsGreatest {m | f.IsBoundary m ∧ m ≤ t.millis + offset} midnight ∧
      ∀ e, f.periodStart t minutes.val = .error e ↔ e = .overflow "timestamp" ∧
        (¬ IntegerType.int64.Fits (t.millis + offset) ∨ ¬ IntegerType.int64.Fits midnight ∨
          ¬ IntegerType.int64.Fits (midnight - offset)) := by
  intro offset
  refine ⟨periodStart64?_eq f t minutes, ?_, ?_⟩
  · intro p hp
    have hagain := periodStart_periodStart (fun _ hn => hn : f.Refines f) hp
    refine ⟨isGreatest_of_periodStart hp, hagain.trans hp, ?_⟩
    intro t' p' hp' hle
    exact periodStart_mono hp hp' hle
  · refine ⟨_, isGreatest_midnight f _, ?_⟩
    intro e
    rw [periodStart_eq_error_iff, exists_periodStart_iff rfl, not_and_or, not_and_or]

theorem periodStart_greatest_boundary_before_epoch :
    ∃ (t p : Timestamp) (minutes : Fixed .int32), t.millis = -1 ∧ minutes.val = 120 ∧
      p.millis = -7200000 ∧ yearly.periodStart t minutes.val = .ok p ∧
      IsGreatest {b | yearly.IsBoundary (b + 7200000) ∧ b ≤ t.millis} p.millis := by
  obtain ⟨-, hok, -⟩ := periodStart_greatest_boundary yearly ⟨⟨-1, by decide⟩⟩ ⟨120, by decide⟩
  obtain ⟨p, hp, hstart⟩ : ∃ p : Timestamp, p.millis = -7200000 ∧
      yearly.periodStart ⟨⟨-1, by decide⟩⟩ 120 = .ok p := ⟨⟨⟨-7200000, by decide⟩⟩, rfl, rfl⟩
  exact ⟨_, p, ⟨120, by decide⟩, rfl, rfl, hp, hstart, (hok p hstart).1⟩

end Columnar.Frequency
