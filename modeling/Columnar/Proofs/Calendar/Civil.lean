import Columnar.Calendar.Date
import Mathlib.Order.Monotone.Basic
import Mathlib.Tactic.IntervalCases
import Mathlib.Tactic.Lemma

/-! The conversions between day numbers and dates are inverse to each other. -/

namespace Columnar.Date

/-- The day, counted from March 1st of the year 0, on which the year from March of `y` starts. -/
def marchStart (y : Int) : Int := 365 * y + y / 4 - y / 100 + y / 400

def marchYear (n : Int) : Int :=
  let era := n / daysPerEra
  let d := n - era * daysPerEra
  (d - d / 1460 + d / 36524 - d / 146096) / 365 + era * 400

def monthIndex (d : Date) : Int := 12 * d.year + d.month - 3

def monthFirst (i : Int) : Int := marchStart (i / 12) + monthStart (i % 12)

lemma marchStart_eq_add (y : Int) :
    marchStart y = marchStart (y - 1) + if IsLeapYear y then 366 else 365 := by
  by_cases h : IsLeapYear y
  · rw [if_pos h]
    simp only [IsLeapYear] at h
    simp only [marchStart]
    omega
  · rw [if_neg h]
    simp only [IsLeapYear] at h
    simp only [marchStart]
    omega

lemma marchStart_add_era (y era : Int) :
    marchStart (y + era * 400) = marchStart y + era * daysPerEra := by
  simp only [daysPerEra, marchStart]
  omega

lemma yearStart_eq {y : Int} (h0 : 0 ≤ y) (h1 : y < 400) : yearStart y = marchStart y := by
  simp only [yearStart, marchStart]
  omega

lemma monthFirst_eq (y : Int) {m : Int} (h0 : 0 ≤ m) (h1 : m < 12) :
    monthFirst (12 * y + m) = marchStart y + monthStart m := by
  have hdiv : (12 * y + m) / 12 = y := by omega
  have hmod : (12 * y + m) % 12 = m := by omega
  rw [monthFirst, hdiv, hmod]

lemma monthFirst_monthIndex {d : Date} (h1 : 1 ≤ d.month) (h12 : d.month ≤ 12) :
    monthFirst d.monthIndex = marchStart (if d.month ≤ 2 then d.year - 1 else d.year)
      + monthStart (((d.month : Int) + 9) % 12) := by
  have hindex : d.monthIndex =
      12 * (if d.month ≤ 2 then d.year - 1 else d.year) + ((d.month : Int) + 9) % 12 := by
    simp only [monthIndex]
    split <;> omega
  rw [hindex, monthFirst_eq _ (by omega) (by omega)]

lemma monthStart_succ (y : Int) {m : Nat} (h1 : 1 ≤ m) (h12 : m ≤ 12) (hfeb : m ≠ 2) :
    monthStart (((m : Int) + 9) % 12 + 1) =
      monthStart (((m : Int) + 9) % 12) + daysInMonth y m := by
  interval_cases m <;> simp_all [monthStart, daysInMonth]

lemma monthFirst_succ {d : Date} (h1 : 1 ≤ d.month) (h12 : d.month ≤ 12) :
    monthFirst (d.monthIndex + 1) = monthFirst d.monthIndex + daysInMonth d.year d.month := by
  rw [monthFirst_monthIndex h1 h12]
  by_cases hfeb : d.month = 2
  · have hindex : d.monthIndex + 1 = 12 * d.year + 0 := by simp only [monthIndex]; omega
    rw [hindex, monthFirst_eq _ (by omega) (by omega), marchStart_eq_add]
    simp only [hfeb, monthStart, daysInMonth]
    split <;> simp <;> omega
  · have hindex : d.monthIndex + 1 =
        12 * (if d.month ≤ 2 then d.year - 1 else d.year) + (((d.month : Int) + 9) % 12 + 1) := by
      simp only [monthIndex]
      split <;> omega
    rw [hindex, monthFirst_eq _ (by omega) (by omega), Int.add_assoc, monthStart_succ _ h1 h12 hfeb]

/-- The quotient by 365 finds the year of a day of an era: one day of each four years is taken off,
and one of each century but the last is put back. -/
lemma yearOfEra_bounds {n q c y : Int} (h0 : 0 ≤ n) (h1 : n < daysPerEra) (hq : q = n / 1460)
    (hc : c = n / 36524 - n / 146096) (hy : y = (n - q + c) / 365) :
    0 ≤ y ∧ y < 400 ∧ marchStart y ≤ n ∧ n < marchStart (y + 1) := by
  simp only [daysPerEra] at h1
  have hcentury : c = 0 ∨ c = 1 ∨ c = 2 ∨ c = 3 := by omega
  have hyear : 100 * c ≤ y ∧ y < 100 * c + 100 := by
    rcases hcentury with rfl | rfl | rfl | rfl <;> omega
  have hfour : y = 4 * q - 1 ∨ y = 4 * q ∨ y = 4 * q + 1 ∨ y = 4 * q + 2 ∨ y = 4 * q + 3 := by omega
  have hhundred : y / 100 = c := by omega
  have hera : y / 400 = 0 := by omega
  refine ⟨by omega, by omega, ?_⟩
  simp only [marchStart, hhundred, hera]
  -- omega needs the century and the place among four years as numbers
  rcases hcentury with rfl | rfl | rfl | rfl <;> rcases hfour with h | h | h | h | h <;> omega

lemma dayOfEra_bounds (n : Int) :
    0 ≤ n - n / daysPerEra * daysPerEra ∧ n - n / daysPerEra * daysPerEra < daysPerEra := by
  simp only [daysPerEra]
  omega

lemma marchYear_bounds (n : Int) :
    marchStart (marchYear n) ≤ n ∧ n < marchStart (marchYear n + 1) := by
  obtain ⟨h0, h1⟩ := dayOfEra_bounds n
  obtain ⟨-, -, hlo, hhi⟩ := yearOfEra_bounds h0 h1 rfl rfl rfl
  simp only [marchYear]
  rw [Int.add_sub_assoc, Int.add_right_comm, marchStart_add_era, marchStart_add_era]
  omega

lemma sub_marchStart_marchYear (n : Int) :
    let d := n - n / daysPerEra * daysPerEra
    n - marchStart (marchYear n) =
      d - yearStart ((d - d / 1460 + d / 36524 - d / 146096) / 365) := by
  obtain ⟨h0, h1⟩ := dayOfEra_bounds n
  obtain ⟨hy0, hy1, -, -⟩ := yearOfEra_bounds h0 h1 rfl rfl rfl
  rw [← Int.add_sub_assoc] at hy0 hy1
  simp only [marchYear, marchStart_add_era]
  rw [yearStart_eq hy0 hy1]
  omega

lemma month_bounds {k m : Int} (h0 : 0 ≤ k) (h1 : k < 366) (hm : m = (5 * k + 2) / 153) :
    0 ≤ m ∧ m < 12 ∧ monthStart m ≤ k ∧ k < monthStart (m + 1) := by
  simp only [monthStart]
  omega

lemma dayOfYear_bounds (n : Int) :
    0 ≤ n - marchStart (marchYear n) ∧ n - marchStart (marchYear n) < 366 := by
  obtain ⟨hlo, hhi⟩ := marchYear_bounds n
  have hlen := marchStart_eq_add (marchYear n + 1)
  rw [Int.add_sub_cancel] at hlen
  split at hlen <;> omega

lemma ofDays_eq {n y k m : Int} (hy : y = marchYear (n + daysBeforeEpoch))
    (hk : k = n + daysBeforeEpoch - marchStart y) (hm : m = (5 * k + 2) / 153)
    (hm0 : 0 ≤ m) (hm1 : m < 12) :
    ofDays n = ⟨y + if m < 10 then 0 else 1, (if m < 10 then m + 3 else m - 9).toNat,
      (k - monthStart m + 1).toNat⟩ := by
  rw [hy, sub_marchStart_marchYear] at hk
  simp only [ofDays, ← hk, ← hm, hy, marchYear, Date.mk.injEq, and_true]
  split <;> split <;> omega

lemma year_ofDays_bounds (n : Int) :
    marchYear (n + daysBeforeEpoch) ≤ (ofDays n).year ∧
      (ofDays n).year ≤ marchYear (n + daysBeforeEpoch) + 1 := by
  obtain ⟨hk0, hk1⟩ := dayOfYear_bounds (n + daysBeforeEpoch)
  obtain ⟨hm0, hm1, -, -⟩ := month_bounds hk0 hk1 rfl
  rw [ofDays_eq rfl rfl rfl hm0 hm1]
  simp only
  split <;> omega

lemma monthFirst_add_one (y : Int) {m : Int} (h0 : 0 ≤ m) (h1 : m < 12) :
    monthFirst (12 * y + m + 1) =
      if m = 11 then marchStart (y + 1) else marchStart y + monthStart (m + 1) := by
  split
  case isTrue h =>
    have hindex : 12 * y + m + 1 = 12 * (y + 1) + 0 := by omega
    rw [hindex, monthFirst_eq _ (by omega) (by omega)]
    simp [monthStart]
  case isFalse h => rw [Int.add_assoc, monthFirst_eq _ (by omega) (by omega)]

lemma ofDays_month (n : Int) :
    1 ≤ (ofDays n).month ∧ (ofDays n).month ≤ 12 ∧ 1 ≤ (ofDays n).day ∧
      n + daysBeforeEpoch = monthFirst (ofDays n).monthIndex + (ofDays n).day - 1 ∧
      n + daysBeforeEpoch < monthFirst ((ofDays n).monthIndex + 1) := by
  obtain ⟨y, hy⟩ : ∃ y, y = marchYear (n + daysBeforeEpoch) := ⟨_, rfl⟩
  obtain ⟨k, hk⟩ : ∃ k, k = n + daysBeforeEpoch - marchStart y := ⟨_, rfl⟩
  obtain ⟨m, hm⟩ : ∃ m, m = (5 * k + 2) / 153 := ⟨_, rfl⟩
  obtain ⟨hk0, hk1⟩ := dayOfYear_bounds (n + daysBeforeEpoch)
  obtain ⟨-, hyear⟩ := marchYear_bounds (n + daysBeforeEpoch)
  rw [← hy] at hk0 hk1 hyear
  obtain ⟨hm0, hm1, hlo, hhi⟩ := month_bounds (by omega) (by omega) hm
  have hdate := ofDays_eq hy hk hm hm0 hm1
  have hindex : (ofDays n).monthIndex = 12 * y + m := by
    rw [hdate]
    simp only [monthIndex]
    split <;> omega
  rw [hindex, monthFirst_add_one y hm0 hm1, monthFirst_eq y hm0 hm1, hdate]
  refine ⟨by simp only; omega, by simp only; omega, by simp only; omega, by simp only; omega, ?_⟩
  split <;> omega

lemma toDays_eq {d : Date} (h1 : 1 ≤ d.month) (h12 : d.month ≤ 12) :
    d.toDays = monthFirst d.monthIndex + d.day - 1 - daysBeforeEpoch := by
  rw [monthFirst_monthIndex h1 h12]
  simp only [toDays]
  generalize (if d.month ≤ 2 then d.year - 1 else d.year) = y
  have hera := marchStart_add_era (y - y / 400 * 400) (y / 400)
  rw [Int.sub_add_cancel] at hera
  rw [yearStart_eq (by omega) (by omega), hera]
  omega

theorem toDays_ofDays (n : Int) : (ofDays n).toDays = n := by
  obtain ⟨h1, h12, -, hn, -⟩ := ofDays_month n
  rw [toDays_eq h1 h12]
  omega

theorem isValid_ofDays (n : Int) : (ofDays n).IsValid := by
  obtain ⟨h1, h12, hday, hn, hnext⟩ := ofDays_month n
  rw [monthFirst_succ h1 h12] at hnext
  exact ⟨h1, h12, hday, by omega⟩

lemma exists_monthIndex (i : Int) : ∃ d : Date, d.monthIndex = i ∧ 1 ≤ d.month ∧ d.month ≤ 12 := by
  refine ⟨⟨(i + 2) / 12, ((i + 2) % 12).toNat + 1, 1⟩, ?_, by simp, by simp only; omega⟩
  simp only [monthIndex]
  omega

lemma daysInMonth_pos (y : Int) {m : Nat} (h1 : 1 ≤ m) (h12 : m ≤ 12) : 0 < daysInMonth y m := by
  interval_cases m <;> simp [daysInMonth]
  split <;> omega

lemma monthFirst_lt_iff {i j : Int} : monthFirst i < monthFirst j ↔ i < j := by
  have hmono : StrictMono monthFirst := by
    apply strictMono_int_of_lt_succ
    intro i
    obtain ⟨d, rfl, h1, h12⟩ := exists_monthIndex i
    have hpos := daysInMonth_pos d.year h1 h12
    rw [monthFirst_succ h1 h12]
    omega
  exact hmono.lt_iff_lt

lemma monthFirst_le {i j : Int} (h : i ≤ j) : monthFirst i ≤ monthFirst j := by
  have hlt := monthFirst_lt_iff (i := j) (j := i)
  omega

def Before (d e : Date) : Prop :=
  d.monthIndex < e.monthIndex ∨ d.monthIndex = e.monthIndex ∧ d.day < e.day

lemma toDays_lt_toDays {d e : Date} (hd : d.IsValid) (he : e.IsValid) (h : d.Before e) :
    d.toDays < e.toDays := by
  obtain ⟨hd1, hd12, hd0, hdlen⟩ := hd
  obtain ⟨he1, he12, he0, helen⟩ := he
  rw [toDays_eq hd1 hd12, toDays_eq he1 he12]
  rcases h with h | ⟨h, hday⟩
  · have hnext := monthFirst_succ hd1 hd12
    have hle := monthFirst_le (Int.add_one_le_iff.mpr h)
    omega
  · rw [h]
    omega

lemma eq_of_toDays_eq {d e : Date} (hd : d.IsValid) (he : e.IsValid) (h : d.toDays = e.toDays) :
    d = e := by
  have hde : ¬ d.Before e := fun hlt => by have := toDays_lt_toDays hd he hlt; omega
  have hed : ¬ e.Before d := fun hlt => by have := toDays_lt_toDays he hd hlt; omega
  obtain ⟨y, m, k⟩ := d
  obtain ⟨y', m', k'⟩ := e
  simp only [Before, IsValid, monthIndex, Date.mk.injEq] at *
  omega

theorem ofDays_toDays {d : Date} (h : d.IsValid) : ofDays d.toDays = d :=
  eq_of_toDays_eq (isValid_ofDays _) h (toDays_ofDays _)

lemma isValid_next {d : Date} (h : d.IsValid) : d.next.IsValid := by
  obtain ⟨h1, h12, hday, hlen⟩ := h
  simp only [next]
  split
  · exact ⟨h1, h12, by simp, by simp only; omega⟩
  · split
    · have hpos := daysInMonth_pos d.year (m := d.month + 1) (by omega) (by omega)
      exact ⟨by simp, by simp only; omega, by simp, hpos⟩
    · exact ⟨by simp, by simp, by simp, by simp [daysInMonth]⟩

lemma next_of_lt {d : Date} (h : d.day < daysInMonth d.year d.month) :
    d.next = { d with day := d.day + 1 } := if_pos h

lemma next_of_last {d : Date} (h12 : d.month ≤ 12) (h : ¬ d.day < daysInMonth d.year d.month) :
    d.next.monthIndex = d.monthIndex + 1 ∧ d.next.day = 1 := by
  rw [next, if_neg h]
  split
  · refine ⟨?_, rfl⟩
    simp only [monthIndex]
    omega
  · refine ⟨?_, rfl⟩
    simp only [monthIndex]
    omega

lemma toDays_next {d : Date} (h : d.IsValid) : d.next.toDays = d.toDays + 1 := by
  obtain ⟨hn1, hn12, -, -⟩ := isValid_next h
  obtain ⟨h1, h12, -, hlen⟩ := h
  rw [toDays_eq hn1 hn12, toDays_eq h1 h12]
  by_cases hlt : d.day < daysInMonth d.year d.month
  · rw [next_of_lt hlt]
    simp only [monthIndex]
    omega
  · obtain ⟨hindex, hday⟩ := next_of_last h12 hlt
    rw [hindex, hday, monthFirst_succ h1 h12]
    omega

theorem ofDays_succ (n : Int) : ofDays (n + 1) = (ofDays n).next := by
  have h := toDays_next (isValid_ofDays n)
  rw [toDays_ofDays] at h
  rw [← h, ofDays_toDays (isValid_next (isValid_ofDays n))]

end Columnar.Date
