import Columnar.Element
import Columnar.Json.Quantity
import Columnar.Proofs.Scalar.Magnitude
import Columnar.Proofs.Decimal.Written

/-! How great the number is that a numeral is read as, where digits and powers of ten are rounded
one by one. -/

namespace Columnar.Json

open Binary Floating Float.Model Float.Model.UnpackedFloat
open Unpacked (unpacked)

variable {k n : ℕ} {e : ℤ} {x : Float} {T : ℚ}

lemma powerOfTen_lt (hk : k ≤ 308) : (10 ^ k * (1 + 1 / 2 ^ 52) : ℚ) < bound .binary64 := by
  have hlargest : 10 ^ 308 * (2 ^ 52 + 1) < 2 ^ 1024 * 2 ^ 52 := by decide +kernel
  have hle : 10 ^ k * (2 ^ 52 + 1) ≤ 10 ^ 308 * (2 ^ 52 + 1) := by
    gcongr
    decide
  have hpow : 10 ^ k * (2 ^ 52 + 1) < 2 ^ 1024 * 2 ^ 52 := hle.trans_lt hlargest
  have hsum : (1 + 1 / 2 ^ 52 : ℚ) = (2 ^ 52 + 1) / 2 ^ 52 := by norm_num
  rw [bound_binary64, hsum, ← mul_div_assoc, div_lt_iff₀ (by positivity)]
  exact_mod_cast hpow

lemma magnitude_powerOfTen (hk : k ≤ 308) :
    ∃ w, Magnitude .binary64 w (unpacked (powerOfTen k)) ∧ 1 ≤ w ∧
      w ≤ 10 ^ k * (1 + 1 / 2 ^ 52) := by
  have hrounded : ∀ {w}, Faithful .binary64 (10 ^ k) w → 1 ≤ w ∧ w ≤ 10 ^ k * (1 + 1 / 2 ^ 52) := by
    intro w hw
    have hcast : Faithful .binary64 (10 ^ k : ℕ) w := by exact_mod_cast hw
    have hle := hcast.le_mul (Nat.pow_pos (by decide)).ne'
    have hone := (hw 1 (representable_two_pow .binary64 0)).2 (one_le_pow₀ (by norm_num))
    push_cast at hle
    exact ⟨hone, hle⟩
  change ∃ w, Magnitude .binary64 w (unpacked (Float.ofScientific 1 false k)) ∧ _
  unfold Float.ofScientific
  split
  case isTrue h =>
    have hone : Magnitude .binary64 (1 : ℕ) (unpacked (Nat.toUInt64 1).toFloat) :=
      magnitude_of_ofNat (α := Float) Nat.one_le_two_pow rfl
    have hten := magnitude_of_isPowerOfTen (isPowerOfTen_exact ⟨k, Nat.lt_succ_of_le h.2⟩)
    obtain ⟨w, hw, hfaithful⟩ := mul_faithful hone hten
    rw [Nat.cast_one, one_mul] at hfaithful
    obtain ⟨hlower, hupper⟩ := hrounded hfaithful
    exact ⟨w, magnitude_of_bits rfl hw (hupper.trans_lt (powerOfTen_lt hk)), hlower, hupper⟩
  case isFalse h =>
    obtain ⟨w, hw, hfaithful⟩ :=
      ofScientific_faithful (S := .binary64) (m := 1) (k := k) (by decide) (by
      change (k : ℤ) ≤ 2048
      omega)
    rw [Nat.cast_one, one_mul] at hfaithful
    obtain ⟨hlower, hupper⟩ := hrounded hfaithful
    exact ⟨w, magnitude_of_bits rfl hw (hupper.trans_lt (powerOfTen_lt hk)), hlower, hupper⟩

section Scaling

variable (hrep : Representable .binary64 T) (hbound : T < bound .binary64)

include hrep hbound

lemma atMost_quotient_power (hk : k ≤ 308) (hx : AtMost T x) : AtMost T (x / powerOfTen k) := by
  obtain ⟨v, hv, hmagnitude⟩ := hx
  obtain ⟨w, hw, hone, -⟩ := magnitude_powerOfTen hk
  refine atMost_div hrep hbound hmagnitude hw (by linarith) ?_
  exact (div_le_self hmagnitude.nonneg hone).trans hv

lemma atMost_divideByPower (hx : AtMost T x) (k : ℕ) : AtMost T (divideByPower x k) := by
  fun_induction divideByPower x k with
  | case1 x k hk => exact atMost_quotient_power hrep hbound hk hx
  | case2 x k hk hzero => exact hx
  | case3 x k hk hzero ih => exact ih (atMost_quotient_power hrep hbound le_rfl hx)

omit hrep hbound in
lemma lt_bound (h : T ≤ 2 ^ 65) : T < bound .binary64 := by
  rw [bound_binary64]
  exact h.trans_lt (pow_lt_pow_right₀ one_lt_two (by decide))

omit hrep hbound in
lemma magnitude_round (hn : n < 2 ^ 64) :
    ∃ v, Magnitude .binary64 v (unpacked (round (.finite false n 0) : Float)) ∧
      v ≤ n * (1 + 1 / 2 ^ 52) := by
  obtain ⟨R, hR, hle, hnear⟩ :
      ∃ R, Representable .binary64 R ∧ n ≤ R ∧ R ≤ n * (1 + 1 / 2 ^ 52) := by
    by_cases hzero : n = 0
    · exact ⟨0, representable_zero .binary64, by simp [hzero], by simp [hzero]⟩
    · exact exists_representable .binary64 hzero
  have hword : (n : ℚ) ≤ 2 ^ 64 := by exact_mod_cast hn.le
  have hlt : R < bound .binary64 := lt_bound (by linarith)
  obtain ⟨v, hv, hmagnitude⟩ :=
    atMost_round (α := Float) (m := n) (e := 0) hR hlt false (by simpa using hle)
  exact ⟨v, hmagnitude, hv.trans hnear⟩

omit hrep hbound in
lemma isInf_eq_false (hx : AtMost T x) : x.isInf = false := by
  obtain ⟨v, -, hmagnitude⟩ := hx
  change (unpacked x).isInf = false
  rcases hmagnitude.cases with ⟨s, hu, -⟩ | ⟨s, m, e, hm, hu, -, -⟩
  · rw [hu]
    rfl
  · rw [hu]
    rfl

omit hrep in
lemma le_of_mul_pow_le (hn : n ≠ 0) (hle : n * 10 ^ k ≤ T) : k ≤ 308 := by
  by_contra hk
  have hpow : 10 ^ 309 ≤ 10 ^ k := by
    gcongr
    · decide
    · omega
  have hlargest : 2 ^ 1024 < 10 ^ 309 := by decide +kernel
  have hproduct : 10 ^ k ≤ n * 10 ^ k := Nat.le_mul_of_pos_left _ (Nat.pos_of_ne_zero hn)
  have hcast : bound .binary64 < n * 10 ^ k := by
    rw [bound_binary64]
    exact_mod_cast hlargest.trans_le (hpow.trans hproduct)
  linarith

lemma exists_product (hn : n < 2 ^ 64) (hle : n * 10 ^ k * (1 + 1 / 2 ^ 52) ^ 2 ≤ T) :
    ∃ y, scale? n k = some y ∧ AtMost T y := by
  obtain ⟨v, hv, hvn⟩ := magnitude_round hn
  by_cases hk : k ≤ 308
  · obtain ⟨w, hw, -, hwk⟩ := magnitude_powerOfTen hk
    obtain ⟨x, hx⟩ : ∃ x : Float, Floating.round (.finite false n 0) = x := ⟨_, rfl⟩
    rw [hx] at hv
    have hproduct : AtMost T (x * powerOfTen k) := by
      refine atMost_mul hrep hbound hv hw ?_
      calc v * w
          ≤ n * (1 + 1 / 2 ^ 52) * (10 ^ k * (1 + 1 / 2 ^ 52)) :=
            mul_le_mul hvn hwk hw.nonneg (by positivity)
        _ = n * 10 ^ k * (1 + 1 / 2 ^ 52) ^ 2 := by ring
        _ ≤ T := hle
    refine ⟨_, ?_, hproduct⟩
    rw [scale?, if_pos (Int.natCast_nonneg k), if_neg (by omega), hx, Int.toNat_natCast]
    exact if_neg (by simp [isInf_eq_false hproduct])
  · have hone : (1 : ℚ) ≤ (1 + 1 / 2 ^ 52) ^ 2 := by norm_num
    have hvalue : (n * 10 ^ k : ℚ) ≤ T := (le_mul_of_one_le_right (by positivity) hone).trans hle
    obtain rfl : n = 0 := by
      by_contra hzero
      exact hk (le_of_mul_pow_le hbound hzero hvalue)
    have hzero : (round (.finite false 0 0) : Float) == 0 := by decide +kernel
    have hvT : v ≤ T := by
      rw [Nat.cast_zero, zero_mul] at hvn hvalue
      exact hvn.trans hvalue
    refine ⟨_, ?_, v, hvT, hv⟩
    rw [scale?, if_pos (Int.natCast_nonneg k), if_pos (by omega)]
    exact if_pos hzero

lemma exists_scale? {e : ℤ} (hn : n < 2 ^ 64) (hT : 2 ^ 65 ≤ T)
    (hle : e ≤ 0 ∨ n * 10 ^ e * (1 + 1 / 2 ^ 52) ^ 2 ≤ T) :
    ∃ y, scale? n e = some y ∧ AtMost T y := by
  rcases lt_or_ge e 0 with he | he
  · obtain ⟨v, hv, hvn⟩ := magnitude_round hn
    have hword : (n : ℚ) ≤ 2 ^ 64 := by exact_mod_cast hn.le
    have hround : AtMost T (round (.finite false n 0) : Float) := ⟨v, by linarith, hv⟩
    refine ⟨_, ?_, atMost_divideByPower hrep hbound hround (-e).toNat⟩
    rw [scale?, if_neg (Int.not_le.mpr he)]
  · obtain ⟨k, rfl⟩ := Int.eq_ofNat_of_zero_le he
    apply exists_product hrep hbound hn
    rcases hle with hzero | hle
    · obtain rfl : k = 0 := by omega
      have hword : (n : ℚ) ≤ 2 ^ 64 := by exact_mod_cast hn.le
      have hgap : (1 + 1 / 2 ^ 52 : ℚ) ^ 2 ≤ 2 := by norm_num
      calc (n * 10 ^ 0 * (1 + 1 / 2 ^ 52) ^ 2 : ℚ)
          ≤ 2 ^ 64 * 2 := by
            rw [pow_zero, mul_one]
            exact mul_le_mul hword hgap (by positivity) (by positivity)
        _ ≤ T := by linarith
    · exact_mod_cast hle

end Scaling

open Decimal (value digitValue)

lemma absorb_eq (hn : n < 2 ^ 64) (ds : List Char) :
    ∃ m read, absorb n ds = (m, read) ∧ m < 2 ^ 64 ∧
    m * 10 ^ (ds.length - read) ≤ n * 10 ^ ds.length + value ds ∧ read ≤ ds.length ∧
    (n * 10 ^ ds.length + value ds < 2 ^ 64 → m = n * 10 ^ ds.length + value ds ∧
      read = ds.length) := by
  induction ds generalizing n with
  | nil => exact ⟨n, 0, rfl, hn, Nat.le_add_right _ _, le_rfl, fun _ => ⟨by simp [value], rfl⟩⟩
  | cons c ds ih =>
    have hvalue : n * 10 ^ (c :: ds).length + value (c :: ds) =
        (10 * n + digitValue c) * 10 ^ ds.length + value ds := by
      rw [Decimal.value_cons, List.length_cons]
      ring
    rw [hvalue]
    by_cases hfits : 10 * n + digitValue c < 2 ^ 64
    · obtain ⟨m, read, hread, hm, hle, hlength, hall⟩ := ih hfits
      refine ⟨m, read + 1, ?_, hm, ?_, Nat.succ_le_succ hlength, fun h => ?_⟩
      · rw [absorb]
        simp only [Nat.pow_eq, if_pos hfits, hread]
      · rwa [List.length_cons, Nat.add_sub_add_right]
      · obtain ⟨hvalue, hend⟩ := hall h
        exact ⟨hvalue, congrArg Nat.succ hend⟩
    · have hpos : 0 < 10 ^ ds.length := Nat.pow_pos (by decide)
      refine ⟨n, 0, ?_, hn, ?_, Nat.zero_le _, fun h => ?_⟩
      · rw [absorb]
        exact if_neg hfits
      · calc n * 10 ^ ((c :: ds).length - 0)
            = 10 * n * 10 ^ ds.length := by
              rw [Nat.sub_zero, List.length_cons]
              ring
          _ ≤ (10 * n + digitValue c) * 10 ^ ds.length :=
            Nat.mul_le_mul_right _ (Nat.le_add_right _ _)
          _ ≤ (10 * n + digitValue c) * 10 ^ ds.length + value ds := Nat.le_add_right _ _
      · have hle := Nat.le_mul_of_pos_right (10 * n + digitValue c) hpos
        omega

lemma exists_significand {n : Numeral} (hwhole : value n.whole < 2 ^ 64) :
    ∃ significand places : ℕ, absorb 0 n.whole = (value n.whole, n.whole.length) ∧
      absorb (value n.whole) n.fraction = (significand, places) ∧ significand < 2 ^ 64 ∧
      significand * 10 ^ (-places : ℤ) ≤ n.significand := by
  obtain ⟨whole, used, hused, -, -, -, hall⟩ := absorb_eq (n := 0) (by decide) n.whole
  obtain ⟨rfl, rfl⟩ : whole = value n.whole ∧ used = n.whole.length := by
    simpa using hall (by simpa using hwhole)
  obtain ⟨significand, places, hplaces, hlt, hle, hlength, -⟩ := absorb_eq hwhole n.fraction
  refine ⟨significand, places, hused, hplaces, hlt, ?_⟩
  have hpow : (10 : ℚ) ^ n.fraction.length = 10 ^ (n.fraction.length - places) * 10 ^ places := by
    rw [← pow_add, Nat.sub_add_cancel hlength]
  have hvalue : (significand * 10 ^ (n.fraction.length - places) : ℚ) ≤
      value (n.whole ++ n.fraction) := by
    rw [Decimal.value_append]
    exact_mod_cast hle
  rw [Numeral.significand, zpow_neg, zpow_natCast, ← div_eq_mul_inv, hpow, div_mul_eq_div_div]
  apply div_le_div_of_nonneg_right _ (by positivity)
  rwa [le_div_iff₀ (by positivity)]

lemma exponentOf_eq (sign ds : List Char) : ∃ m ≤ value ds,
    exponentOf sign ds = (if sign == ['-'] then -(m : ℤ) else m, decide (m < 2 ^ 31)) := by
  refine ⟨value ((ds.dropWhile (· == '0')).take 11), ?_, rfl⟩
  exact (Decimal.value_take_le 11 _).trans_eq (Decimal.value_dropWhile_zero ds)

lemma clamp_le (e : ℤ) : clamp e ≤ 0 ∨ clamp e ≤ e := by
  simp only [clamp, Nat.pow_eq]
  omega

def scaled? (significand : ℕ) (base : ℤ) : Option (List Char) → Option Float
  | none => scale? significand base
  | some e =>
    let (sign, ds) := splitSign e
    let (written, small) := exponentOf sign ds
    if small then scale? significand (clamp (base + written))
    else if significand ≠ 0 && 0 ≤ written then none
    else some 0

lemma real?_eq {m : Numeral} {significand places : ℕ}
    (hwhole : absorb 0 m.whole = (value m.whole, m.whole.length))
    (hfraction : absorb (value m.whole) m.fraction = (significand, places)) :
    real? m = (scaled? significand (-places) m.exponent).map fun x =>
      if m.negative then -x else x := by
  have hbase : ((m.whole.length - m.whole.length : ℕ) : ℤ) - places = -places := by simp
  rw [real?, hwhole]
  simp only [hfraction, hbase]
  cases m.exponent with
  | none =>
    change _ = (scale? significand (-places)).map _
    cases scale? significand (-places) with
    | none => rfl
    | some x => rfl
  | some e =>
    simp only [scaled?]
    split
    · cases scale? significand
        (clamp (-places + (exponentOf (splitSign e).1 (splitSign e).2).1)) with
      | none => rfl
      | some x => rfl
    · split
      · rfl
      · rfl

section Numerals

variable {significand : ℕ} {base : ℤ} (hrep : Representable .binary64 T)
    (hbound : T < bound .binary64) (hT : 2 ^ 65 ≤ T) (hlt : significand < 2 ^ 64)

include hrep hbound hT hlt

lemma exists_scaled_negative {L : ℤ} (hbase : base ≤ 0) (hL : L < 0) :
    ∃ y, scaled? significand base (some (Decimal.exponentDigits L)) = some y ∧ AtMost T y := by
  obtain ⟨m, hm⟩ : ∃ m : ℕ, exponentOf ['-'] (Decimal.digits L.natAbs) =
      (-(m : ℤ), decide (m < 2 ^ 31)) :=
    (exponentOf_eq ['-'] _).imp fun m hm => hm.2
  rw [Decimal.exponentDigits_eq, if_neg (Int.not_le.mpr hL)]
  simp only [scaled?, splitSign, hm]
  -- A negative exponent makes the number smaller, and one of more than 32 bits makes it zero.
  by_cases hsmall : m < 2 ^ 31
  · rw [if_pos (decide_eq_true hsmall)]
    apply exists_scale? hrep hbound hlt hT
    left
    rcases clamp_le (base + -m) with h | h
    · exact h
    · omega
  · rw [if_neg (by simpa using hsmall), if_neg (by simp; omega)]
    exact ⟨0, rfl, 0, (by positivity : (0 : ℚ) ≤ 2 ^ 65).trans hT, rfl⟩

lemma exists_scaled_nonneg {L : ℕ} (hL : L ≤ 308)
    (hle : significand * 10 ^ base * 10 ^ L * (1 + 1 / 2 ^ 52) ^ 2 ≤ T) :
    ∃ y, scaled? significand base (some (Decimal.exponentDigits L)) = some y ∧ AtMost T y := by
  obtain ⟨m, hmL, hm⟩ : ∃ m ≤ L, exponentOf ['+'] (Decimal.digits L) =
      ((m : ℤ), decide (m < 2 ^ 31)) := by
    simpa [Decimal.value_digits] using exponentOf_eq ['+'] (Decimal.digits L)
  rw [Decimal.exponentDigits_eq, if_pos (Int.natCast_nonneg L), Int.natAbs_natCast]
  simp only [scaled?, splitSign, hm]
  rw [if_pos (by simp; omega)]
  apply exists_scale? hrep hbound hlt hT
  rcases clamp_le (base + m) with h | h
  · exact .inl h
  · right
    have hpow : (10 : ℚ) ^ clamp (base + m) ≤ 10 ^ base * 10 ^ L := by
      rw [← zpow_natCast, ← zpow_add₀ (by norm_num)]
      exact zpow_le_zpow_right₀ (by norm_num) (h.trans (by omega))
    refine le_trans ?_ hle
    rw [mul_assoc _ (10 ^ base)]
    gcongr

end Numerals

lemma exists_real? {d : Decimal} {m : Numeral} (hshape : d.Shape m)
    (hrep : Representable .binary64 T)
    (hbound : T < bound .binary64) (hT : 2 ^ 65 ≤ T) (hle : d.toRat * (1 + 1 / 2 ^ 52) ^ 2 ≤ T) :
    ∃ y, real? m = some (if m.negative then -y else y) ∧ AtMost T y := by
  have hfactor : (1 : ℚ) ≤ (1 + 1 / 2 ^ 52) ^ 2 := by norm_num
  have hword : value m.whole < 2 ^ 64 := by
    have hsmall : m.significand < 10 ^ 16 := hshape.significand_lt
    have hwhole := m.value_whole_le.trans_lt hsmall
    have hlt : (10 : ℕ) ^ 16 < 2 ^ 64 := by decide
    exact lt_trans (by exact_mod_cast hwhole) hlt
  obtain ⟨significand, places, hwhole, hfraction, hlt, hvalue⟩ := exists_significand hword
  suffices h : ∃ y, scaled? significand (-places) m.exponent = some y ∧ AtMost T y by
    obtain ⟨y, hy, hyT⟩ := h
    exact ⟨y, by rw [real?_eq hwhole hfraction, hy]; rfl, hyT⟩
  have hbase : -(places : ℤ) ≤ 0 := Int.neg_nonpos_of_nonneg (Int.natCast_nonneg places)
  rcases hshape with ⟨hexponent, -, hdigits, hsmall⟩ | ⟨hexponent, hdigits, hd⟩
  · rw [hexponent]
    exact exists_scale? hrep hbound hlt hT (.inl hbase)
  · rw [hexponent]
    rcases lt_or_ge d.leading 0 with hL | hL
    · exact exists_scaled_negative hrep hbound hT hlt hbase hL
    · obtain ⟨L, hL⟩ := Int.eq_ofNat_of_zero_le hL
      have hleading := Decimal.le_toRat hd
      rw [hL, zpow_natCast] at hleading hdigits
      have htoRat : d.toRat ≤ T := (le_mul_of_one_le_right d.toRat_nonneg hfactor).trans hle
      have hlimit : ((1 : ℕ) * 10 ^ L : ℚ) ≤ T := by simpa using hleading.trans htoRat
      rw [hL]
      refine exists_scaled_nonneg hrep hbound hT hlt (le_of_mul_pow_le hbound one_ne_zero hlimit) ?_
      refine le_trans ?_ hle
      rw [← hdigits]
      gcongr

end Columnar.Json
