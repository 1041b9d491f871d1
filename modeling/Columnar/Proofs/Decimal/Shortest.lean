import Columnar.Decimal.Shortest
import Columnar.Proofs.Scalar.Packing

/-! The shortest decimal of a positive value is positive, and no further above the value than half
the gap to the next one. -/

namespace Columnar.Decimal

variable {a n m : ℕ} {i j e : ℤ} {narrow : Bool} {d : Decimal} {tie : Tie}

def toRat (d : Decimal) : ℚ := d.coefficient * 10 ^ d.exponent

def upper (mantissa : ℕ) (exponent : ℤ) : ℚ := (4 * mantissa + 2 : ℕ) * 2 ^ (exponent - 2)

lemma upper_eq (m : ℕ) (e : ℤ) : upper m e = (m + 1 / 2) * 2 ^ e := by
  rw [upper, zpow_sub₀ two_ne_zero]
  push_cast
  ring

lemma le_of_compareScaled (h : compareScaled a i n j ≠ .gt) : (a : ℚ) * 10 ^ i ≤ n * 2 ^ j := by
  have hle : a * 10 ^ i.toNat * 2 ^ (-j).toNat ≤ n * 2 ^ j.toNat * 10 ^ (-i).toNat :=
    Nat.compare_ne_gt.mp h
  have hten : (10 : ℚ) ^ i = 10 ^ i.toNat / 10 ^ (-i).toNat := Binary.zpow_eq_div i
  have htwo : (2 : ℚ) ^ j = 2 ^ j.toNat / 2 ^ (-j).toNat := Binary.zpow_eq_div j
  rw [hten, htwo, ← mul_div_assoc, ← mul_div_assoc, div_le_div_iff₀ (by positivity) (by positivity)]
  exact_mod_cast hle

lemma pos_of_compareScaled (hn : n ≠ 0) (h : compareScaled a i n j ≠ .lt) : a ≠ 0 := by
  rintro rfl
  apply h
  apply Nat.compare_eq_lt.mpr
  simp only [Nat.zero_mul]
  have hn' := Nat.pos_of_ne_zero hn
  exact Nat.mul_pos (Nat.mul_pos hn' (Nat.two_pow_pos _)) (Nat.pow_pos (by decide))

def Near (m : ℕ) (e : ℤ) (d : Decimal) : Prop := d.coefficient ≠ 0 ∧ d.toRat ≤ upper m e

lemma near_of_readsBack (hm : m ≠ 0) (h : readsBack m e narrow d) : Near m e d := by
  simp only [readsBack, Bool.and_eq_true, Bool.or_eq_true, beq_iff_eq] at h
  obtain ⟨hbelow, habove⟩ := h
  constructor
  · have hlow : (if narrow then 4 * m - 1 else 4 * m - 2) ≠ 0 := by split <;> omega
    refine pos_of_compareScaled (i := d.exponent) (j := e - 2) hlow ?_
    rcases hbelow with h | ⟨-, h⟩
    · rw [h]
      decide
    · rw [h]
      decide
  · apply le_of_compareScaled
    rcases habove with h | ⟨-, h⟩
    · rw [h]
      decide
    · rw [h]
      decide

lemma nearer_cases (tie : Tie) (m : ℕ) (e : ℤ) (lower : ℕ) (grid : ℤ) :
    nearer tie m e lower grid = lower ∨ nearer tie m e lower grid = lower + 1 := by
  unfold nearer
  split
  case h_1 => exact .inr rfl
  case h_2 => exact .inl rfl
  case h_3 =>
    cases tie with
    | upper => exact .inr rfl
    | even => exact ite_eq_or_eq _ _ _

lemma near_of_withDigits? (hm : m ≠ 0) (h : withDigits? tie m e narrow n = some d) :
    Near m e d := by
  dsimp only [withDigits?] at h
  generalize scale m e - n = grid at h
  generalize floorTo m e grid = lower at h
  cases hlower : readsBack m e narrow ⟨lower, grid⟩ with
  | true =>
    cases hnext : readsBack m e narrow ⟨lower + 1, grid⟩ with
    | true =>
      simp only [hlower, hnext, Option.some.injEq] at h
      subst h
      rcases nearer_cases tie m e lower grid with hcase | hcase
      · rw [hcase]
        exact near_of_readsBack hm hlower
      · rw [hcase]
        exact near_of_readsBack hm hnext
    | false =>
      simp only [hlower, hnext, Option.some.injEq] at h
      subst h
      exact near_of_readsBack hm hlower
  | false =>
    cases hnext : readsBack m e narrow ⟨lower + 1, grid⟩ with
    | true =>
      simp only [hlower, hnext, Option.some.injEq] at h
      subst h
      exact near_of_readsBack hm hnext
    | false => simp [hlower, hnext] at h

lemma toRat_normalize (d : Decimal) : d.normalize.toRat = d.toRat := by
  fun_induction normalize d with
  | case1 d h ih =>
    have hcancel : ((d.coefficient / 10 : ℕ) : ℚ) * 10 = d.coefficient := by
      exact_mod_cast Nat.div_mul_cancel (Nat.dvd_of_mod_eq_zero h.2)
    rw [ih, toRat, toRat, zpow_add_one₀ (by norm_num), ← hcancel]
    ring
  | case2 d h => rfl

lemma coefficient_normalize_ne_zero (h : d.coefficient ≠ 0) : d.normalize.coefficient ≠ 0 := by
  fun_induction normalize d with
  | case1 d hd ih =>
    apply ih
    change d.coefficient / 10 ≠ 0
    omega
  | case2 d hd => exact h

lemma Near.normalize (h : Near m e d) : Near m e d.normalize := by
  refine ⟨coefficient_normalize_ne_zero h.1, ?_⟩
  rw [toRat_normalize]
  exact h.2

lemma near_toDecimal (hm : m ≠ 0) (e : ℤ) :
    Near m e ⟨(Exact.toDecimal m e).1, -((Exact.toDecimal m e).2 : ℤ)⟩ := by
  have hvalue := Binary.toDecimal_eq m e
  have hunit := Binary.two_zpow_pos e
  constructor
  · rintro hzero
    simp only at hzero
    rw [hzero, Nat.cast_zero, zero_div, eq_comm, mul_eq_zero, Nat.cast_eq_zero] at hvalue
    exact hvalue.elim hm hunit.ne'
  · rw [upper_eq, toRat, zpow_neg, zpow_natCast, ← div_eq_mul_inv, hvalue]
    apply Binary.mul_le_mul_two_zpow.mpr
    linarith

lemma near_shortest (hm : m ≠ 0) (tie : Tie) (e : ℤ) (narrow : Bool) :
    Near m e (shortest tie m e narrow) := by
  unfold shortest
  cases hfind : (List.range 17).findSome? fun n => withDigits? tie m e narrow (n + 1) with
  | some d =>
    obtain ⟨n, -, hn⟩ := List.exists_of_findSome?_eq_some hfind
    exact (near_of_withDigits? hm hn).normalize
  | none => exact (near_toDecimal hm e).normalize

end Columnar.Decimal
