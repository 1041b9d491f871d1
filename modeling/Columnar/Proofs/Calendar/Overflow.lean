import Columnar.Calendar.Timestamp
import Columnar.Proofs.Calendar.Civil
import Columnar.Proofs.Scalar.Wrapping

/-! The conversions of dates carried out in integers of 64 bits, one operation after the other and
with division toward zero. Where no operation leaves the type they are the conversions of `Date`. -/

namespace Columnar

def int64? (x : Int) : Option Int := if IntegerType.int64.Fits x then some x else none

lemma int64?_eq_some_iff {x y : Int} : int64? x = some y ↔ IntegerType.int64.Fits x ∧ x = y := by
  unfold int64?
  split <;> simp [*]

lemma int64?_of_fits {x : Int} (h : IntegerType.int64.Fits x) : int64? x = some x := if_pos h

lemma int64?_bind_eq_some_iff {α : Type} {x : Int} {f : Int → Option α} {a : α} :
    (int64? x).bind f = some a ↔ IntegerType.int64.Fits x ∧ f x = some a := by
  unfold int64?
  split <;> simp [*]

lemma fits_int64_iff {x : Int} :
    IntegerType.int64.Fits x ↔ -9223372036854775808 ≤ x ∧ x ≤ 9223372036854775807 := Iff.rfl

lemma fits_int32_iff {x : Int} :
    IntegerType.int32.Fits x ↔ -2147483648 ≤ x ∧ x ≤ 2147483647 := Iff.rfl

lemma val_wrap_uint32 {x : Int} (h0 : 0 ≤ x) (h1 : x < 4294967296) :
    (Fixed.wrap .uint32 x).val = x :=
  Fixed.val_wrap_of_fits ⟨h0, Int.le_sub_one_of_lt h1⟩

namespace Date

def yearStart64? (y : Int) : Option Int := do
  let days ← int64? (y * 365)
  let days ← int64? (days + y.tdiv 4)
  int64? (days - y.tdiv 100)

def monthStart64? (m : Int) : Option Int := do
  let days ← int64? (153 * m)
  let days ← int64? (days + 2)
  return days.tdiv 5

def toDays64? (d : Date) : Option Int := do
  let year ← int64? (if d.month ≤ 2 then d.year - 1 else d.year)
  let era := year / 400
  let eraYears ← int64? (era * 400)
  let yearOfEra ← int64? (year - eraYears)
  let month ← int64? (d.month + 9)
  let start ← monthStart64? (month.tmod 12)
  let dayOfYear ← int64? (start + d.day)
  let dayOfYear ← int64? (dayOfYear - 1)
  let start ← yearStart64? yearOfEra
  let dayOfEra ← int64? (start + dayOfYear)
  let eraDays ← int64? (era * daysPerEra)
  let days ← int64? (eraDays + dayOfEra)
  int64? (days - daysBeforeEpoch)

def yearOfEra64? (dayOfEra : Int) : Option Int := do
  let days ← int64? (dayOfEra - dayOfEra.tdiv 1460)
  let days ← int64? (days + dayOfEra.tdiv 36524)
  let days ← int64? (days - dayOfEra.tdiv 146096)
  return days.tdiv 365

def month64? (dayOfYear : Int) : Option Int := do
  let days ← int64? (5 * dayOfYear)
  let days ← int64? (days + 2)
  return days.tdiv 153

def dayOfYear64? (dayOfEra yearOfEra : Int) : Option Int := do
  let start ← yearStart64? yearOfEra
  int64? (dayOfEra - start)

def dayOfMonth64? (dayOfYear m : Int) : Option Int := do
  let start ← monthStart64? m
  let day ← int64? (dayOfYear - start)
  let day ← int64? (day + 1)
  return (Fixed.wrap .uint32 day).val

def monthOfYear64? (m : Int) : Option Int := do
  let month ← int64? (if m < 10 then m + 3 else m - 9)
  return (Fixed.wrap .uint32 month).val

def ofDays64? (days : Int) : Option Date := do
  let n ← int64? (days + daysBeforeEpoch)
  let era := n / daysPerEra
  let eraDays ← int64? (era * daysPerEra)
  let dayOfEra ← int64? (n - eraDays)
  let yearOfEra ← yearOfEra64? dayOfEra
  let dayOfYear ← dayOfYear64? dayOfEra yearOfEra
  let m ← month64? dayOfYear
  let day ← dayOfMonth64? dayOfYear m
  let month ← monthOfYear64? m
  let eraYears ← int64? (era * 400)
  let year ← int64? (yearOfEra + eraYears)
  let year ← int64? (year + if month ≤ 2 then 1 else 0)
  return { year := year, month := month.toNat, day := day.toNat }

lemma daysInMonth_le (y : Int) (m : Nat) : daysInMonth y m ≤ 31 := by
  unfold daysInMonth
  split <;> try split
  all_goals omega

lemma yearStart64?_eq {y : Int} (h0 : 0 ≤ y) (h1 : y < 400) :
    yearStart64? y = some (yearStart y) := by
  simp only [yearStart64?, Option.bind_eq_bind, int64?_bind_eq_some_iff, int64?_eq_some_iff,
    fits_int64_iff]
  simp (disch := omega) only [Int.tdiv_eq_ediv_of_nonneg]
  refine ⟨?_, ?_, ?_, rfl⟩ <;> omega

lemma monthStart64?_eq {m : Int} (h0 : 0 ≤ m) (h1 : m < 12) :
    monthStart64? m = some (monthStart m) := by
  simp only [monthStart64?, Option.bind_eq_bind, int64?_bind_eq_some_iff, fits_int64_iff]
  simp (disch := omega) only [Int.tdiv_eq_ediv_of_nonneg]
  refine ⟨?_, ?_, rfl⟩ <;> omega

lemma yearOfEra64?_eq {d : Int} (h0 : 0 ≤ d) (h1 : d < daysPerEra) :
    yearOfEra64? d = some ((d - d / 1460 + d / 36524 - d / 146096) / 365) := by
  simp only [daysPerEra] at h1
  simp only [yearOfEra64?, Option.bind_eq_bind, int64?_bind_eq_some_iff, fits_int64_iff]
  simp (disch := omega) only [Int.tdiv_eq_ediv_of_nonneg]
  refine ⟨?_, ?_, ?_, rfl⟩ <;> omega

lemma month64?_eq {k : Int} (h0 : 0 ≤ k) (h1 : k < 366) :
    month64? k = some ((5 * k + 2) / 153) := by
  simp only [month64?, Option.bind_eq_bind, int64?_bind_eq_some_iff, fits_int64_iff]
  simp (disch := omega) only [Int.tdiv_eq_ediv_of_nonneg]
  refine ⟨?_, ?_, rfl⟩ <;> omega

lemma toDays64?_eq_some_iff {d : Date} {n y k e : Int}
    (hy : y = if d.month ≤ 2 then d.year - 1 else d.year)
    (hk : k = monthStart (((d.month : Int) + 9) % 12) + d.day)
    (he : e = yearStart (y - y / 400 * 400) + (k - 1)) :
    toDays64? d = some n ↔
      (IntegerType.int64.Fits y ∧ IntegerType.int64.Fits (y / 400 * 400) ∧
        IntegerType.int64.Fits (y - y / 400 * 400) ∧ IntegerType.int64.Fits (d.month + 9) ∧
        IntegerType.int64.Fits k ∧ IntegerType.int64.Fits (k - 1) ∧ IntegerType.int64.Fits e ∧
        IntegerType.int64.Fits (y / 400 * daysPerEra) ∧
        IntegerType.int64.Fits (y / 400 * daysPerEra + e) ∧ IntegerType.int64.Fits d.toDays) ∧
      n = d.toDays := by
  have hm0 : (0 : Int) ≤ d.month + 9 := by omega
  have hy0 : 0 ≤ y - y / 400 * 400 := by omega
  have hy1 : y - y / 400 * 400 < 400 := by omega
  have hdays : d.toDays = y / 400 * daysPerEra + e - daysBeforeEpoch := by
    rw [he, hk, hy]
    rfl
  have hmonth := monthStart64?_eq (m := ((d.month : Int) + 9) % 12) (by omega) (by omega)
  rw [← Int.tmod_eq_emod_of_nonneg hm0] at hmonth hk
  simp only [toDays64?, Option.bind_eq_bind, Option.bind_some, int64?_bind_eq_some_iff,
    int64?_eq_some_iff, ← hy, hmonth, ← hk, yearStart64?_eq hy0 hy1, ← he, ← hdays]
  simp only [and_assoc, eq_comm]

lemma eq_toDays_of_toDays64? {d : Date} {n : Int} (h : toDays64? d = some n) : n = d.toDays :=
  ((toDays64?_eq_some_iff rfl rfl rfl).mp h).2

lemma toDays64?_eq {d : Date} (hd : d.IsValid) (h0 : -9007199254740992 ≤ d.year)
    (h1 : d.year ≤ 9007199254740992) : toDays64? d = some d.toDays := by
  obtain ⟨hm1, hm12, -, hday⟩ := hd
  have hlen := daysInMonth_le d.year d.month
  refine (toDays64?_eq_some_iff rfl rfl rfl).mpr ⟨?_, rfl⟩
  simp only [fits_int64_iff, daysPerEra, toDays, daysBeforeEpoch, monthStart, yearStart]
  omega

lemma dayOfYear64?_eq {d y : Int} (h0 : 0 ≤ y) (h1 : y < 400) (hk0 : 0 ≤ d - yearStart y)
    (hk1 : d - yearStart y < 366) : dayOfYear64? d y = some (d - yearStart y) := by
  simp only [dayOfYear64?, yearStart64?_eq h0 h1, Option.bind_eq_bind, Option.bind_some]
  exact int64?_of_fits (by rw [fits_int64_iff]; omega)

lemma dayOfMonth64?_eq {k m : Int} (h0 : 0 ≤ m) (h1 : m < 12) (hlo : monthStart m ≤ k)
    (hhi : k < monthStart (m + 1)) : dayOfMonth64? k m = some (k - monthStart m + 1) := by
  have hlen : monthStart (m + 1) ≤ monthStart m + 31 := by
    simp only [monthStart]
    omega
  simp only [dayOfMonth64?, monthStart64?_eq h0 h1, Option.bind_eq_bind, Option.bind_some]
  simp only [int64?_bind_eq_some_iff, fits_int64_iff]
  refine ⟨by omega, by omega, ?_⟩
  rw [val_wrap_uint32 (by omega) (by omega)]
  rfl

lemma monthOfYear64?_eq {m : Int} (h0 : 0 ≤ m) (h1 : m < 12) :
    monthOfYear64? m = some (if m < 10 then m + 3 else m - 9) := by
  simp only [monthOfYear64?, Option.bind_eq_bind, int64?_bind_eq_some_iff, fits_int64_iff]
  refine ⟨by split <;> omega, ?_⟩
  rw [val_wrap_uint32 (by split <;> omega) (by split <;> omega)]
  rfl

lemma ofDays64?_eq_some_iff {n e : Int} {d : Date} (he : e = (n + daysBeforeEpoch) / daysPerEra) :
    ofDays64? n = some d ↔
      (IntegerType.int64.Fits (n + daysBeforeEpoch) ∧ IntegerType.int64.Fits (e * daysPerEra) ∧
        IntegerType.int64.Fits (e * 400) ∧
        IntegerType.int64.Fits (marchYear (n + daysBeforeEpoch)) ∧
        IntegerType.int64.Fits (ofDays n).year) ∧ d = ofDays n := by
  obtain ⟨h0, h1⟩ := dayOfEra_bounds (n + daysBeforeEpoch)
  have hfits : IntegerType.int64.Fits (n + daysBeforeEpoch - e * daysPerEra) := by
    simp only [fits_int64_iff, he, daysPerEra] at *
    omega
  obtain ⟨hk0, hk1⟩ := dayOfYear_bounds (n + daysBeforeEpoch)
  obtain ⟨hm0, hm1, hlo, hhi⟩ := month_bounds hk0 hk1 rfl
  obtain ⟨hy0, hy1, -, -⟩ := yearOfEra_bounds h0 h1 rfl rfl rfl
  rw [← Int.add_sub_assoc] at hy0 hy1
  simp only [sub_marchStart_marchYear] at hk0 hk1 hm0 hm1 hlo hhi
  simp only [ofDays64?, Option.bind_eq_bind, Option.bind_some, int64?_bind_eq_some_iff,
    yearOfEra64?_eq h0 h1, dayOfYear64?_eq hy0 hy1 hk0 hk1, month64?_eq hk0 hk1,
    dayOfMonth64?_eq hm0 hm1 hlo hhi, monthOfYear64?_eq hm0 hm1]
  -- what the steps have found is the definition of the date
  change _ ∧ _ ∧ _ ∧ _ ∧ IntegerType.int64.Fits (marchYear (n + daysBeforeEpoch)) ∧
    IntegerType.int64.Fits (ofDays n).year ∧ some (ofDays n) = some d ↔ _
  simp only [← he, hfits, true_and, and_assoc, Option.some.injEq, eq_comm]

lemma eq_ofDays_of_ofDays64? {n : Int} {d : Date} (h : ofDays64? n = some d) : d = ofDays n :=
  ((ofDays64?_eq_some_iff rfl).mp h).2

lemma year_ofDays_le {n : Int} (h0 : -1152921504606846976 ≤ n) (h1 : n ≤ 1152921504606846976) :
    -9007199254740992 ≤ (ofDays n).year ∧ (ofDays n).year ≤ 9007199254740992 := by
  obtain ⟨hstart, hnext⟩ := marchYear_bounds (n + daysBeforeEpoch)
  obtain ⟨hyear, hyear'⟩ := year_ofDays_bounds n
  simp only [daysBeforeEpoch, marchStart] at *
  omega

lemma ofDays64?_eq {n : Int} (h0 : -1152921504606846976 ≤ n) (h1 : n ≤ 1152921504606846976) :
    ofDays64? n = some (ofDays n) := by
  obtain ⟨hyear, hyear'⟩ := year_ofDays_bounds n
  obtain ⟨hlo, hhi⟩ := year_ofDays_le h0 h1
  refine (ofDays64?_eq_some_iff rfl).mpr ⟨?_, rfl⟩
  simp only [fits_int64_iff, daysPerEra, daysBeforeEpoch] at *
  omega

lemma days_bounds (t : Timestamp) : -106751991168 ≤ t.days ∧ t.days ≤ 106751991167 := by
  obtain ⟨hlo, hhi⟩ := fits_int64_iff.mp t.ticks.fits
  simp only [Timestamp.days, Timestamp.millis, Timestamp.millisPerDay, Timestamp.millisPerHour,
    Timestamp.millisPerMinute, Timestamp.millisPerSecond]
  omega

lemma toDays_bounds {d : Date} (hd : d.IsValid) (hy : IntegerType.int32.Fits d.year) :
    -1152921504606846976 ≤ d.toDays ∧ d.toDays ≤ 1152921504606846976 := by
  obtain ⟨h1, h12, -, hday⟩ := hd
  have hlen := daysInMonth_le d.year d.month
  simp only [fits_int32_iff, toDays, daysPerEra, daysBeforeEpoch, monthStart, yearStart] at *
  omega

theorem conversions_gregorian :
    (∀ n, (ofDays n).IsValid ∧ (ofDays n).toDays = n ∧ ofDays (n + 1) = (ofDays n).next) ∧
    (∀ d : Date, d.IsValid → ofDays d.toDays = d) ∧ ofDays 0 = ⟨1970, 1, 1⟩ ∧
    (∀ n d, ofDays64? n = some d → d = ofDays n) ∧ (∀ d n, toDays64? d = some n → n = d.toDays) ∧
    (∀ t : Timestamp, ofDays64? t.days = some (ofDays t.days) ∧
      toDays64? (ofDays t.days) = some t.days) ∧
    (∀ d : Date, d.IsValid → IntegerType.int32.Fits d.year →
      toDays64? d = some d.toDays ∧ ofDays64? d.toDays = some d) := by
  refine ⟨fun n => ⟨isValid_ofDays n, toDays_ofDays n, ofDays_succ n⟩,
    fun d => ofDays_toDays, by decide, fun n d => eq_ofDays_of_ofDays64?,
    fun d n => eq_toDays_of_toDays64?, ?_, ?_⟩
  · intro t
    obtain ⟨hlo, hhi⟩ := days_bounds t
    obtain ⟨hylo, hyhi⟩ := year_ofDays_le (n := t.days) (by omega) (by omega)
    refine ⟨ofDays64?_eq (by omega) (by omega), ?_⟩
    rw [toDays64?_eq (isValid_ofDays _) hylo hyhi, toDays_ofDays]
  · intro d hd hy
    obtain ⟨hlo, hhi⟩ := toDays_bounds hd hy
    obtain ⟨hylo, hyhi⟩ := fits_int32_iff.mp hy
    refine ⟨toDays64?_eq hd (by omega) (by omega), ?_⟩
    rw [ofDays64?_eq hlo hhi, ofDays_toDays hd]

theorem conversions_gregorian_leap_day :
    let d : Date := ⟨-400, 2, 29⟩
    d.IsValid ∧ IntegerType.int32.Fits d.year ∧ ofDays d.toDays = d ∧ ofDays64? d.toDays = some d :=
  ⟨by decide, by decide, conversions_gregorian.2.1 _ (by decide),
    (conversions_gregorian.2.2.2.2.2.2 _ (by decide) (by decide)).2⟩

end Date

end Columnar
