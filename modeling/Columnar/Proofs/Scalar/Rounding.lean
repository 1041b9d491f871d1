import Mathlib.Data.Nat.Cast.Order.Field
import Mathlib.Tactic.FieldSimp
import Mathlib.Tactic.Linarith
import Mathlib.Tactic.LinearCombination
import Mathlib.Tactic.Ring

/-! Rounding to a binary format is faithful: between a number and what it is rounded to there is no
value of the format. -/

namespace Columnar.Binary

open Float.Model Float.Model.UnpackedFloat

variable {S : Format} {s : Sign} {m q n k : ℕ} {e t : ℤ} {r v w T : ℚ}

/-- A value of the format, exponents being unlimited above. -/
def Representable (S : Format) (T : ℚ) : Prop :=
  ∃ (m : ℕ) (e : ℤ), m ≤ 2 ^ S.mantissaBits ∧ S.minExponent ≤ e ∧ T = m * 2 ^ e

/-- There is no value of the format between the two. -/
def Faithful (S : Format) (r v : ℚ) : Prop :=
  ∀ T, Representable S T → (r ≤ T → v ≤ T) ∧ (T ≤ r → T ≤ v)

def Normal (S : Format) (m : ℕ) (e : ℤ) : Prop :=
  2 ^ S.mantissaBitsWithoutImplicit ≤ m ∨ e = S.minExponent

structure Canonical (S : Format) (m : ℕ) (e : ℤ) : Prop where
  lt : m < 2 ^ S.mantissaBits
  minExponent_le : S.minExponent ≤ e
  normal : Normal S m e

def Magnitude (S : Format) (v : ℚ) : UnpackedFloat → Prop
  | .zero _ => v = 0
  | .finite _ m e _ => Canonical S m e ∧ v = m * 2 ^ e
  | _ => False

lemma Magnitude.cases {a : UnpackedFloat} (h : Magnitude S v a) :
    (∃ s, a = .zero s ∧ v = 0) ∨ ∃ s m e hm, a = .finite s m e hm ∧ Canonical S m e ∧
    v = m * 2 ^ e := by
  cases a with
  | zero s => exact .inl ⟨s, rfl, h⟩
  | finite s m e hm => exact .inr ⟨s, m, e, hm, rfl, h⟩
  | infinity s => cases h
  | notANumber => cases h

lemma mantissaBits_eq (S : Format) : S.mantissaBits = 1 + S.mantissaBitsWithoutImplicit := rfl

lemma pow_mantissaBits (S : Format) :
    2 ^ S.mantissaBits = 2 * 2 ^ S.mantissaBitsWithoutImplicit := by
  rw [mantissaBits_eq, Nat.pow_add, Nat.pow_one]

lemma representable_zero (S : Format) : Representable S 0 :=
  ⟨0, S.minExponent, Nat.zero_le _, le_rfl, by simp⟩

lemma two_zpow_pos (e : ℤ) : (0 : ℚ) < 2 ^ e := zpow_pos two_pos e

lemma zpow_eq_div {b : ℕ} (e : ℤ) : (b : ℚ) ^ e = b ^ e.toNat / b ^ (-e).toNat := by
  rcases le_total 0 e with he | he
  · obtain ⟨k, rfl⟩ := Int.eq_ofNat_of_zero_le he
    simp
  · obtain ⟨k, hk⟩ := Int.eq_ofNat_of_zero_le (neg_nonneg.mpr he)
    obtain rfl : e = -k := by omega
    simp

lemma two_zpow_add (e : ℤ) (k : ℕ) : (2 : ℚ) ^ (e + k) = 2 ^ k * 2 ^ e := by
  rw [zpow_add₀ two_ne_zero, zpow_natCast, mul_comm]

lemma mul_le_mul_two_zpow {a b : ℚ} : a * 2 ^ e ≤ b * 2 ^ e ↔ a ≤ b :=
  mul_le_mul_iff_left₀ (two_zpow_pos e)

lemma mul_lt_mul_two_zpow {a b : ℚ} : a * 2 ^ e < b * 2 ^ e ↔ a < b :=
  mul_lt_mul_iff_left₀ (two_zpow_pos e)

lemma Representable.units (h : Representable S T) (hq : Normal S q t) :
    (∃ n : ℕ, T = n * 2 ^ t) ∨ T ≤ q * 2 ^ t := by
  obtain ⟨m, e, hm, he, rfl⟩ := h
  rcases le_or_gt t e with hte | hte
  · obtain ⟨k, rfl⟩ := Int.le.dest hte
    refine .inl ⟨m * 2 ^ k, ?_⟩
    rw [two_zpow_add]
    push_cast
    ring
  · have hfull : 2 ^ S.mantissaBitsWithoutImplicit ≤ q := hq.resolve_right (by omega)
    have hunit : (2 : ℚ) ^ (e + 1) ≤ 2 ^ t := zpow_le_zpow_right₀ one_le_two (by omega)
    right
    calc (m : ℚ) * 2 ^ e
        ≤ (2 ^ S.mantissaBits : ℕ) * 2 ^ e := mul_le_mul_two_zpow.mpr (by exact_mod_cast hm)
      _ = 2 ^ S.mantissaBitsWithoutImplicit * 2 ^ (e + 1) := by
          rw [pow_mantissaBits, zpow_add_one₀ two_ne_zero]
          push_cast
          ring
      _ ≤ q * 2 ^ t :=
        mul_le_mul (by exact_mod_cast hfull) hunit (two_zpow_pos _).le (Nat.cast_nonneg q)

lemma faithful_of_units (hq : Normal S q t) (hlower : q * 2 ^ t ≤ r) (hupper : r < (q + 1) * 2 ^ t)
    (hn : n = q ∨ n = q + 1 ∧ q * 2 ^ t < r) : Faithful S r (n * 2 ^ t) := by
  intro T hT
  have hqn : (q : ℚ) * 2 ^ t ≤ n * 2 ^ t := by
    apply mul_le_mul_two_zpow.mpr
    exact_mod_cast hn.elim ge_of_eq fun h => by omega
  rcases hT.units hq with ⟨N, rfl⟩ | hle
  · constructor
    · intro hr
      apply mul_le_mul_two_zpow.mpr
      rcases hn with rfl | ⟨rfl, hlt⟩
      · exact mul_le_mul_two_zpow.mp (hlower.trans hr)
      · have hqN : (q : ℚ) < N := mul_lt_mul_two_zpow.mp (hlt.trans_le hr)
        exact_mod_cast hqN
    · intro hr
      have hNq : (N : ℚ) < q + 1 := mul_lt_mul_two_zpow.mp (hr.trans_lt hupper)
      have hNq' : (N : ℚ) ≤ q := by exact_mod_cast Nat.lt_succ_iff.mp (by exact_mod_cast hNq)
      exact (mul_le_mul_two_zpow.mpr hNq').trans hqn
  · refine ⟨?_, fun _ => hle.trans hqn⟩
    intro hr
    rcases hn with rfl | ⟨-, hlt⟩
    · exact hlower.trans hr
    · exact absurd (hlt.trans_le (hr.trans hle)) (lt_irrefl _)

lemma shiftRight_succ (em : ExtendedMantissa) (k : ℕ) : em >>> (k + 1) = (em >>> k).shiftRightOne :=
  rfl

lemma mantissa_shiftRight (em : ExtendedMantissa) (k : ℕ) :
    (em >>> k).mantissa = em.mantissa / 2 ^ k := by
  induction k with
  | zero => exact (Nat.div_one _).symm
  | succ k ih =>
    rw [shiftRight_succ, Nat.pow_succ, ← Nat.div_div_eq_div_mul, ← ih]
    rfl

def Whole (em : ExtendedMantissa) : Prop := em.roundBit = false ∧ em.stickyBit = false

lemma whole_shiftRight {em : ExtendedMantissa} (hwhole : Whole em) (h : 2 ^ k ∣ em.mantissa) :
    Whole (em >>> k) := by
  induction k with
  | zero => exact hwhole
  | succ k ih =>
    obtain ⟨hround, hsticky⟩ := ih ((Nat.pow_dvd_pow 2 (Nat.le_succ k)).trans h)
    have heven : (em >>> k).mantissa % 2 = 0 := by
      rw [mantissa_shiftRight, ← Nat.dvd_iff_mod_eq_zero]
      rw [Nat.pow_succ] at h
      exact Nat.dvd_div_of_mul_dvd h
    rw [shiftRight_succ]
    constructor
    · simp [ExtendedMantissa.shiftRightOne, heven]
    · simp [ExtendedMantissa.shiftRightOne, hround, hsticky]

lemma roundedMantissa_cases (em : ExtendedMantissa) :
    em.roundedMantissa = em.mantissa ∨ em.roundedMantissa = em.mantissa + 1 ∧ ¬ Whole em := by
  rcases em with ⟨m, round, sticky⟩
  cases round with
  | false =>
    left
    cases sticky <;> rfl
  | true =>
    have hnot : ¬ Whole ⟨m, true, sticky⟩ := fun h => Bool.noConfusion h.1
    cases sticky with
    | false =>
      change m + m % 2 = m ∨ m + m % 2 = m + 1 ∧ _
      rcases Nat.mod_two_eq_zero_or_one m with h | h
      · exact .inl (by omega)
      · exact .inr ⟨by omega, hnot⟩
    | true => exact .inr ⟨rfl, hnot⟩

lemma whole_ofMantissaAndAccuracy : Whole (.ofMantissaAndAccuracy m .exact) := ⟨rfl, rfl⟩

lemma mantissa_ofMantissaAndAccuracy (m : ℕ) (a : Accuracy) :
    (ExtendedMantissa.ofMantissaAndAccuracy m a).mantissa = m := by
  cases a with
  | exact => rfl
  | inexact o => cases o <;> rfl

lemma targetExponent_eq (S : Format) (m : ℕ) (e : ℤ) :
    S.targetExponent (totalExponent m e) =
      max (m.log2 + e - S.mantissaBitsWithoutImplicit) S.minExponent := by
  rw [Format.targetExponent, totalExponent, mantissaBits_eq]
  congr 1
  push_cast
  ring

lemma shiftToTargetExponent_eq {a : Accuracy} (h : S.targetExponent (totalExponent m e) = e + k) :
    shiftToTargetExponent S m e a = (ExtendedMantissa.ofMantissaAndAccuracy m a >>> k, e + k) := by
  have hk : (S.targetExponent (totalExponent m e) - e).toNat = k := by omega
  simp only [shiftToTargetExponent, shiftToExponent, hk]

lemma normal_shift (h : S.targetExponent (totalExponent m e) = e + k) :
    Normal S (m / 2 ^ k) (e + k) := by
  rw [targetExponent_eq] at h
  by_cases hmin : e + k = S.minExponent
  · exact .inr hmin
  · have hlog : m.log2 = k + S.mantissaBitsWithoutImplicit := by omega
    have hm : m ≠ 0 := by
      rintro rfl
      have := S.hm
      simp at hlog
      omega
    left
    apply (Nat.le_div_iff_mul_le (Nat.two_pow_pos k)).mpr
    rw [← Nat.pow_add, Nat.add_comm, ← hlog]
    exact Nat.log2_self_le hm

lemma shift_lt (h : S.targetExponent (totalExponent m e) = e + k) :
    m / 2 ^ k < 2 ^ S.mantissaBits := by
  rw [targetExponent_eq] at h
  apply (Nat.div_lt_iff_lt_mul (Nat.two_pow_pos k)).mpr
  rw [← Nat.pow_add]
  refine Nat.lt_log2_self.trans_le (Nat.pow_le_pow_right (by decide) ?_)
  rw [mantissaBits_eq]
  omega

lemma exists_carry (hn : n ≤ 2 ^ S.mantissaBits) (hnormal : Normal S n t) (ht : S.minExponent ≤ t) :
    ∃ k : ℕ, S.targetExponent (totalExponent n t) = t + k ∧ 2 ^ k ∣ n ∧
      Normal S (n / 2 ^ k) (t + k) := by
  rcases hn.lt_or_eq with hlt | rfl
  · refine ⟨0, ?_, by simp, by simpa using hnormal⟩
    rw [targetExponent_eq]
    rcases hnormal with hfull | rfl
    · have hlog : n.log2 = S.mantissaBitsWithoutImplicit := by
        have hpos : n ≠ 0 := (Nat.two_pow_pos _).trans_le hfull |>.ne'
        rw [pow_mantissaBits, Nat.mul_comm, ← Nat.pow_succ] at hlt
        exact (Nat.log2_eq_iff hpos).mpr ⟨hfull, hlt⟩
      omega
    · have hlog : n.log2 ≤ S.mantissaBitsWithoutImplicit := by
        by_cases hpos : n = 0
        · simp [hpos]
        · have hbits := (Nat.log2_lt hpos).mpr hlt
          rw [mantissaBits_eq] at hbits
          omega
      omega
  · have hhalf : 2 ^ S.mantissaBits / 2 ^ 1 = 2 ^ S.mantissaBitsWithoutImplicit := by
      rw [pow_mantissaBits, Nat.pow_one, Nat.mul_div_cancel_left _ two_pos]
    refine ⟨1, ?_, ?_, ?_⟩
    · rw [targetExponent_eq, Nat.log2_two_pow, mantissaBits_eq]
      omega
    · rw [pow_mantissaBits]
      exact Nat.dvd_mul_right _ _
    · exact .inl hhalf.ge

lemma finite_congr {s' : Sign} {n : ℕ} {t : ℤ} {h : 0 < m} {h' : 0 < n} (hs : s = s') (hmn : m = n)
    (het : e = t) : UnpackedFloat.finite s m e h = .finite s' n t h' := by
  subst hs hmn het
  rfl

lemma roundWithAccuracy_of_shift {a : Accuracy} {x y : ExtendedMantissa} {e' e'' : ℤ}
    (hx : shiftToTargetExponent S m e a = (x, e'))
    (hy : shiftToTargetExponent S x.roundedMantissa e' .exact = (y, e'')) :
    roundWithAccuracy S s m e a =
      if h : y.mantissa = 0 then .zero s else .finite s y.mantissa e'' (Nat.pos_of_ne_zero h) := by
  rw [roundWithAccuracy, hx]
  dsimp only
  rw [hy]

lemma roundWithAccuracy_eq {a : Accuracy} {j : ℕ}
    (hk : S.targetExponent (totalExponent m e) = e + k)
    (hn : (ExtendedMantissa.ofMantissaAndAccuracy m a >>> k).roundedMantissa = n)
    (hj : S.targetExponent (totalExponent n (e + k)) = e + k + j) :
    roundWithAccuracy S s m e a =
      if h : n / 2 ^ j = 0 then .zero s
      else .finite s (n / 2 ^ j) (e + k + j) (Nat.pos_of_ne_zero h) := by
  have hmantissa : (ExtendedMantissa.ofMantissaAndAccuracy n .exact >>> j).mantissa = n / 2 ^ j :=
    mantissa_shiftRight _ j
  subst hn
  rw [roundWithAccuracy_of_shift (shiftToTargetExponent_eq hk) (shiftToTargetExponent_eq hj)]
  generalize (ExtendedMantissa.ofMantissaAndAccuracy _ _ >>> j).mantissa = q at hmantissa ⊢
  subst hmantissa
  rfl

lemma lt_of_not_whole {a : Accuracy} (hlower : m * 2 ^ e ≤ r) (ha : a = .exact ∨ m * 2 ^ e < r)
    (hwhole : ¬ Whole (ExtendedMantissa.ofMantissaAndAccuracy m a >>> k)) :
    ((m / 2 ^ k : ℕ) * 2 ^ k : ℚ) * 2 ^ e < r := by
  by_cases hdvd : 2 ^ k ∣ m
  · have hexact : a ≠ .exact := by
      rintro rfl
      exact hwhole (whole_shiftRight whole_ofMantissaAndAccuracy hdvd)
    have hcancel : ((m / 2 ^ k : ℕ) : ℚ) * 2 ^ k = m := by exact_mod_cast Nat.div_mul_cancel hdvd
    rw [hcancel]
    exact ha.resolve_left hexact
  · have hlt : m / 2 ^ k * 2 ^ k < m :=
      (Nat.div_mul_le_self m (2 ^ k)).lt_of_ne fun h => hdvd (Nat.dvd_of_mod_eq_zero (by
        have := Nat.div_add_mod' m (2 ^ k)
        omega))
    have hlt' : ((m / 2 ^ k : ℕ) : ℚ) * 2 ^ k < m := by exact_mod_cast hlt
    exact (mul_lt_mul_two_zpow.mpr hlt').trans_le hlower

lemma roundWithAccuracy_faithful {a : Accuracy} (s : Sign) (hlower : m * 2 ^ e ≤ r)
    (hupper : r < (m + 1) * 2 ^ e) (ha : a = .exact ∨ m * 2 ^ e < r)
    (hbits : e ≤ S.targetExponent (totalExponent m e)) :
    ∃ v, Magnitude S v (roundWithAccuracy S s m e a) ∧ Faithful S r v := by
  obtain ⟨k, hk⟩ := Int.le.dest hbits
  have hunits : (2 : ℚ) ^ (e + k) = 2 ^ k * 2 ^ e := two_zpow_add e k
  have hdiv : ((m / 2 ^ k : ℕ) : ℚ) * 2 ^ k ≤ m := by exact_mod_cast Nat.div_mul_le_self m (2 ^ k)
  have hnext : (m : ℚ) + 1 ≤ ((m / 2 ^ k : ℕ) + 1) * 2 ^ k := by
    exact_mod_cast Nat.lt_mul_of_div_lt (Nat.lt_succ_self _) (Nat.two_pow_pos k)
  have hmin : S.minExponent ≤ e + k := by
    rw [hk, targetExponent_eq]
    exact le_max_right _ _
  have hnormal := normal_shift hk.symm
  obtain ⟨n, hn⟩ : ∃ n, (ExtendedMantissa.ofMantissaAndAccuracy m a >>> k).roundedMantissa = n :=
    ⟨_, rfl⟩
  have hcases := roundedMantissa_cases (ExtendedMantissa.ofMantissaAndAccuracy m a >>> k)
  rw [hn, mantissa_shiftRight, mantissa_ofMantissaAndAccuracy] at hcases
  have hfaithful : Faithful S r (n * 2 ^ (e + k)) := by
    apply faithful_of_units hnormal
    · rw [hunits, ← mul_assoc]
      exact (mul_le_mul_two_zpow.mpr hdiv).trans hlower
    · rw [hunits, ← mul_assoc]
      exact hupper.trans_le (mul_le_mul_two_zpow.mpr hnext)
    · rw [hunits, ← mul_assoc]
      exact hcases.imp_right fun h => ⟨h.1, lt_of_not_whole hlower ha h.2⟩
  have hle : m / 2 ^ k ≤ n := hcases.elim ge_of_eq fun h => by omega
  have hbound : n ≤ 2 ^ S.mantissaBits := by
    have hlt := shift_lt hk.symm
    rcases hcases with h | h <;> omega
  obtain ⟨j, hj, hdvd, hcarried⟩ := exists_carry hbound (hnormal.imp_left hle.trans') hmin
  refine ⟨n * 2 ^ (e + k), ?_, hfaithful⟩
  have hvalue : (n : ℚ) * 2 ^ (e + k) = (n / 2 ^ j : ℕ) * 2 ^ (e + k + j) := by
    have hcancel : ((n / 2 ^ j : ℕ) : ℚ) * 2 ^ j = n := by exact_mod_cast Nat.div_mul_cancel hdvd
    rw [two_zpow_add (e + k) j, ← mul_assoc, hcancel]
  rw [roundWithAccuracy_eq hk.symm hn hj, hvalue]
  by_cases hzero : n / 2 ^ j = 0
  · rw [dif_pos hzero, hzero, Nat.cast_zero, zero_mul]
    rfl
  · rw [dif_neg hzero]
    exact ⟨⟨shift_lt hj, by omega, hcarried⟩, rfl⟩

section Operations

variable {a b : UnpackedFloat} {m₁ m₂ : ℕ} {e₁ e₂ : ℤ}

lemma Magnitude.nonneg (h : Magnitude S v a) : 0 ≤ v := by
  rcases h.cases with ⟨s, -, rfl⟩ | ⟨s, m, e, hm, -, -, rfl⟩
  · exact le_rfl
  · exact mul_nonneg (Nat.cast_nonneg m) (two_zpow_pos e).le

lemma faithful_self (S : Format) (r : ℚ) : Faithful S r r := fun _ _ => ⟨id, id⟩

lemma minExponent_nonpos (S : Format) : S.minExponent ≤ 0 := by
  have hpow : 0 < 2 ^ (S.exponentBits - 1) := Nat.two_pow_pos _
  have hbits := S.hm
  rw [Format.minExponent, mantissaBits_eq]
  push_cast
  zify at hpow
  omega

lemma product_bits (h₁ : 0 < m₁) (h₂ : 0 < m₂) (hc₁ : Canonical S m₁ e₁) (hc₂ : Canonical S m₂ e₂) :
    e₁ + e₂ ≤ S.targetExponent (totalExponent (m₁ * m₂) (e₁ + e₂)) := by
  have hbits : ∀ {m n : ℕ}, 0 < n → 2 ^ S.mantissaBitsWithoutImplicit ≤ m →
      S.mantissaBitsWithoutImplicit ≤ (m * n).log2 := by
    intro m n hn hfull
    have hpos : m * n ≠ 0 := (Nat.mul_pos ((Nat.two_pow_pos _).trans_le hfull) hn).ne'
    exact (Nat.le_log2 hpos).mpr (hfull.trans (Nat.le_mul_of_pos_right m hn))
  rw [targetExponent_eq]
  -- If neither mantissa has all its bits, both exponents are the least, which is not positive.
  rcases hc₁.normal with hfull | hmin₁
  · have := hbits h₂ hfull
    omega
  · rcases hc₂.normal with hfull | hmin₂
    · have := hbits h₁ hfull
      rw [Nat.mul_comm] at this
      omega
    · have := minExponent_nonpos S
      omega

lemma mul_faithful (ha : Magnitude S v a) (hb : Magnitude S w b) :
    ∃ u, Magnitude S u (mul S a b) ∧ Faithful S (v * w) u := by
  rcases ha.cases with ⟨s, rfl, rfl⟩ | ⟨s, m₁, e₁, h₁, rfl, hc₁, rfl⟩
  · rw [zero_mul]
    rcases hb.cases with ⟨s', rfl, -⟩ | ⟨s', m₂, e₂, h₂, rfl, -, -⟩
    · exact ⟨0, rfl, faithful_self S 0⟩
    · exact ⟨0, rfl, faithful_self S 0⟩
  · rcases hb.cases with ⟨s', rfl, rfl⟩ | ⟨s', m₂, e₂, h₂, rfl, hc₂, rfl⟩
    · rw [mul_zero]
      exact ⟨0, rfl, faithful_self S 0⟩
    · have hproduct : (m₁ * 2 ^ e₁ * (m₂ * 2 ^ e₂) : ℚ) = (m₁ * m₂ : ℕ) * 2 ^ (e₁ + e₂) := by
        rw [zpow_add₀ two_ne_zero]
        push_cast
        ring
      rw [hproduct]
      exact roundWithAccuracy_faithful (s * s') le_rfl (mul_lt_mul_two_zpow.mpr (lt_add_one _))
        (.inl rfl) (product_bits h₁ h₂ hc₁ hc₂)

lemma le_log2_quotient (h₁ : m₁ ≠ 0) (h₂ : m₂ ≠ 0) (hn : n + m₂.log2 + 1 ≤ m₁.log2 + k) :
    n ≤ (m₁ * 2 ^ k / m₂).log2 := by
  have hle : 2 ^ n ≤ m₁ * 2 ^ k / m₂ := by
    apply (Nat.le_div_iff_mul_le (Nat.pos_of_ne_zero h₂)).mpr
    calc 2 ^ n * m₂
        ≤ 2 ^ n * 2 ^ (m₂.log2 + 1) := Nat.mul_le_mul_left _ Nat.lt_log2_self.le
      _ = 2 ^ (n + m₂.log2 + 1) := (Nat.pow_add 2 n (m₂.log2 + 1)).symm
      _ ≤ 2 ^ (m₁.log2 + k) := Nat.pow_le_pow_right two_pos hn
      _ = 2 ^ m₁.log2 * 2 ^ k := Nat.pow_add 2 m₁.log2 k
      _ ≤ m₁ * 2 ^ k := Nat.mul_le_mul_right _ (Nat.log2_self_le h₁)
  exact (Nat.le_log2 ((Nat.two_pow_pos n).trans_le hle).ne').mpr hle

lemma quotient_bits (h₁ : m₁ ≠ 0) (h₂ : m₂ ≠ 0) (hk : e₁ - e₂ = t + k)
    (hbits : t ≤ S.targetExponent (totalExponent m₁ e₁ - totalExponent m₂ e₂)) :
    t ≤ S.targetExponent (totalExponent (m₁ * 2 ^ k / m₂) t) := by
  rw [targetExponent_eq]
  rw [Format.targetExponent, totalExponent, totalExponent, mantissaBits_eq, Nat.cast_add] at hbits
  rcases le_max_iff.mp hbits with hfull | hmin
  · have hbits := le_log2_quotient (n := S.mantissaBitsWithoutImplicit) (k := k) h₁ h₂ (by omega)
    omega
  · exact hmin.trans (le_max_right _ _)

lemma divCore_faithful (s : Sign) (h₁ : m₁ ≠ 0) (h₂ : m₂ ≠ 0) (e₁ e₂ : ℤ) :
    ∃ u, Magnitude S u (roundWithAccuracy S s (divCore S m₁ e₁ m₂ e₂).1 (divCore S m₁ e₁ m₂ e₂).2.1
      (divCore S m₁ e₁ m₂ e₂).2.2) ∧ Faithful S (m₁ * 2 ^ e₁ / (m₂ * 2 ^ e₂)) u := by
  obtain ⟨t, ht⟩ : ∃ t,
      min (e₁ - e₂) (S.targetExponent (totalExponent m₁ e₁ - totalExponent m₂ e₂)) = t :=
    ⟨_, rfl⟩
  obtain ⟨k, hk⟩ := Int.le.dest (ht ▸ min_le_left _ _ : t ≤ e₁ - e₂)
  have hshift : (e₁ - e₂ - t).toNat = k := by omega
  have hcore : divCore S m₁ e₁ m₂ e₂ =
      (m₁ * 2 ^ k / m₂, t, accuracyOfFraction (m₁ * 2 ^ k % m₂) m₂) := by
    simp only [divCore, ht, hshift, Nat.shiftLeft_eq]
  have hpos : (0 : ℚ) < m₂ := by exact_mod_cast Nat.pos_of_ne_zero h₂
  have hquotient : (m₁ * 2 ^ e₁ / (m₂ * 2 ^ e₂) : ℚ) = (m₁ * 2 ^ k : ℕ) / m₂ * 2 ^ t := by
    have hexponents : (2 : ℚ) ^ e₁ = 2 ^ k * 2 ^ t * 2 ^ e₂ := by
      rw [mul_comm ((2 : ℚ) ^ k), ← zpow_natCast, ← zpow_add₀ two_ne_zero,
        ← zpow_add₀ two_ne_zero, hk, sub_add_cancel]
    have hunit := (two_zpow_pos e₂).ne'
    rw [hexponents]
    push_cast
    field_simp
  have hdivide := Nat.div_add_mod (m₁ * 2 ^ k) m₂
  have hrest := Nat.mod_lt (m₁ * 2 ^ k) (Nat.pos_of_ne_zero h₂)
  rw [hcore, hquotient]
  apply roundWithAccuracy_faithful
  · apply mul_le_mul_two_zpow.mpr
    exact Nat.cast_div_le
  · apply mul_lt_mul_two_zpow.mpr
    rw [div_lt_iff₀ hpos]
    exact_mod_cast Nat.lt_mul_of_div_lt (Nat.lt_succ_self _) (Nat.pos_of_ne_zero h₂)
  · by_cases hzero : m₁ * 2 ^ k % m₂ = 0
    · left
      rw [accuracyOfFraction, if_pos hzero]
    · right
      apply mul_lt_mul_two_zpow.mpr
      rw [lt_div_iff₀ hpos]
      have hlt : m₁ * 2 ^ k / m₂ * m₂ < m₁ * 2 ^ k := by
        rw [Nat.mul_comm]
        omega
      exact_mod_cast hlt
  · exact quotient_bits h₁ h₂ hk.symm (ht ▸ min_le_right _ _)

lemma div_faithful (ha : Magnitude S v a) (hb : Magnitude S w b) (hw : 0 < w) :
    ∃ u, Magnitude S u (div S a b) ∧ Faithful S (v / w) u := by
  rcases hb.cases with ⟨s', -, rfl⟩ | ⟨s', m₂, e₂, h₂, rfl, -, rfl⟩
  · exact absurd hw (lt_irrefl 0)
  · rcases ha.cases with ⟨s, rfl, rfl⟩ | ⟨s, m₁, e₁, h₁, rfl, -, rfl⟩
    · rw [zero_div]
      exact ⟨0, rfl, faithful_self S 0⟩
    · exact divCore_faithful (s / s') h₁.ne' h₂.ne' _ _

lemma log2_mul_two_pow (hm : m ≠ 0) (k : ℕ) : (m * 2 ^ k).log2 = m.log2 + k := by
  apply (Nat.log2_eq_iff (Nat.mul_ne_zero hm (Nat.two_pow_pos k).ne')).mpr
  constructor
  · rw [Nat.pow_add]
    exact Nat.mul_le_mul_right _ (Nat.log2_self_le hm)
  · rw [Nat.add_right_comm, Nat.pow_add]
    exact Nat.mul_lt_mul_of_pos_right Nat.lt_log2_self (Nat.two_pow_pos k)

lemma round_faithful (s : Sign) (hm : m ≠ 0) (e : ℤ) :
    ∃ u, Magnitude S u (UnpackedFloat.round S s m e) ∧ Faithful S (m * 2 ^ e) u := by
  obtain ⟨t, ht⟩ : ∃ t, S.targetExponent (totalExponent m e) = t := ⟨_, rfl⟩
  obtain ⟨k, hk⟩ : ∃ k, (e - t).toNat = k := ⟨_, rfl⟩
  have hround : UnpackedFloat.round S s m e = roundWithAccuracy S s (m * 2 ^ k) (e - k) .exact := by
    simp only [UnpackedFloat.round, decreaseExponent, ht, hk, Nat.shiftLeft_eq]
  have hvalue : (m * 2 ^ e : ℚ) = (m * 2 ^ k : ℕ) * 2 ^ (e - k) := by
    have hexponent : (2 : ℚ) ^ e = 2 ^ k * 2 ^ (e - k) := by rw [← two_zpow_add, sub_add_cancel]
    rw [hexponent]
    push_cast
    ring
  have hbits : S.targetExponent (totalExponent (m * 2 ^ k) (e - k)) = t := by
    rw [← ht, targetExponent_eq, targetExponent_eq, log2_mul_two_pow hm]
    push_cast
    congr 2
    ring
  rw [hround, hvalue]
  exact roundWithAccuracy_faithful s le_rfl (mul_lt_mul_two_zpow.mpr (lt_add_one _))
    (.inl rfl) (by omega)

lemma ofNat_faithful (S : Format) (n : ℕ) :
    ∃ u, Magnitude S u (UnpackedFloat.ofNat S n) ∧ Faithful S n u := by
  rw [UnpackedFloat.ofNat, UnpackedFloat.ofInt, UnpackedFloat.normalize]
  by_cases hn : n = 0
  · subst hn
    exact ⟨0, rfl, by simpa using faithful_self S 0⟩
  · have hpos : compare (n : ℤ) 0 = .gt := Int.compare_eq_gt.mpr (by omega)
    obtain ⟨u, hu, hfaithful⟩ := round_faithful (S := S) .positive hn 0
    rw [hpos]
    rw [zpow_zero, mul_one] at hfaithful
    exact ⟨u, hu, hfaithful⟩

lemma ofScientific_faithful (hm : m ≠ 0) (hk : (k : ℤ) ≤ 2 ^ S.exponentBits) :
    ∃ u, Magnitude S u (UnpackedFloat.ofScientific S m k) ∧ Faithful S (m * 10 ^ k) u := by
  have hproduct : UnpackedFloat.ofScientific S m k =
      roundWithAccuracy S (.positive * .positive) (m * 2 ^ S.mantissaBits * 10 ^ k)
        (-S.mantissaBits + 0) .exact := by
    rw [UnpackedFloat.ofScientific, dif_neg hm, if_neg (by omega), if_neg (by omega),
      if_pos (by omega)]
    change roundWithAccuracy S _ (m <<< S.mantissaBits * 10 ^ (k : ℤ).toNat) _ _ = _
    rw [Nat.shiftLeft_eq, Int.toNat_natCast]
  have hvalue : (m * 10 ^ k : ℚ) =
      (m * 2 ^ S.mantissaBits * 10 ^ k : ℕ) * 2 ^ (-S.mantissaBits + 0 : ℤ) := by
    have hone : (2 : ℚ) ^ S.mantissaBits * 2 ^ (-S.mantissaBits + 0 : ℤ) = 1 := by
      rw [← two_zpow_add, add_zero, neg_add_cancel, zpow_zero]
    push_cast
    linear_combination (-(m * 10 ^ k) : ℚ) * hone
  have hbits : S.mantissaBits ≤ (m * 2 ^ S.mantissaBits * 10 ^ k).log2 := by
    have hten : 0 < 10 ^ k := Nat.pow_pos (by decide)
    have hpos : m * 2 ^ S.mantissaBits * 10 ^ k ≠ 0 := by positivity
    apply (Nat.le_log2 hpos).mpr
    rw [Nat.mul_right_comm]
    exact Nat.le_mul_of_pos_left _ (Nat.mul_pos (Nat.pos_of_ne_zero hm) hten)
  rw [hproduct, hvalue]
  apply roundWithAccuracy_faithful _ le_rfl (mul_lt_mul_two_zpow.mpr (lt_add_one _)) (.inl rfl)
  rw [targetExponent_eq]
  rw [mantissaBits_eq] at *
  omega

lemma ofScientific_le (hm : m ≠ 0) (hT : Representable S T) (hle : m / 10 ^ k ≤ T) :
    ∃ u, Magnitude S u (UnpackedFloat.ofScientific S m (-k)) ∧ u ≤ T := by
  have hten : (0 : ℚ) < 10 ^ k := by positivity
  have hlimit : (0 : ℤ) ≤ 2 ^ S.exponentBits := by positivity
  by_cases hk : k = 0
  · subst hk
    obtain ⟨u, hu, hfaithful⟩ := ofScientific_faithful (S := S) (k := 0) hm (by positivity)
    rw [pow_zero, mul_one] at hfaithful
    rw [pow_zero, div_one] at hle
    exact ⟨u, hu, (hfaithful T hT).1 hle⟩
  · by_cases htiny : (-k : ℤ) < -((2 ^ S.exponentBits : ℤ) + m.log2)
    · refine ⟨0, ?_, (div_nonneg (Nat.cast_nonneg m) hten.le).trans hle⟩
      rw [UnpackedFloat.ofScientific, dif_neg hm, if_neg (by omega), if_pos htiny]
      rfl
    · have hquotient : UnpackedFloat.ofScientific S m (-k) =
          div S (.finite .positive m 0 (Nat.pos_of_ne_zero hm))
            (.finite .positive (10 ^ k) 0 (Nat.pow_pos (by decide))) := by
        rw [UnpackedFloat.ofScientific, dif_neg hm, if_neg (by omega), if_neg htiny,
          if_neg (by omega)]
        exact congrArg (div S _) (finite_congr rfl (by rw [neg_neg, Int.toNat_natCast]) rfl)
      have hten' : 10 ^ k ≠ 0 := (Nat.pow_pos (by decide)).ne'
      obtain ⟨u, hu, hfaithful⟩ := divCore_faithful (S := S) (.positive / .positive) hm hten' 0 0
      rw [hquotient]
      refine ⟨u, hu, (hfaithful T hT).1 ?_⟩
      simpa using hle

end Operations

lemma representable_natCast (hm : m ≤ 2 ^ S.mantissaBits) : Representable S m :=
  ⟨m, 0, hm, minExponent_nonpos S, by simp⟩

lemma representable_two_pow (S : Format) (k : ℕ) : Representable S (2 ^ k) := by
  refine ⟨1, k, Nat.one_le_two_pow, (minExponent_nonpos S).trans (Int.natCast_nonneg k), ?_⟩
  rw [Nat.cast_one, one_mul, zpow_natCast]

lemma exists_representable (S : Format) (hn : n ≠ 0) :
    ∃ T, Representable S T ∧ n ≤ T ∧ T ≤ n * (1 + 1 / 2 ^ S.mantissaBitsWithoutImplicit) := by
  have hfull : (0 : ℚ) < 2 ^ S.mantissaBitsWithoutImplicit := by positivity
  obtain ⟨k, hk⟩ : ∃ k, n.log2 - S.mantissaBitsWithoutImplicit = k := ⟨_, rfl⟩
  rcases Nat.eq_zero_or_pos k with rfl | hkpos
  · have hle : n ≤ 2 ^ S.mantissaBits := by
      refine Nat.lt_log2_self.le.trans (Nat.pow_le_pow_right two_pos ?_)
      rw [mantissaBits_eq]
      omega
    have hextra : (0 : ℚ) ≤ n * (1 / 2 ^ S.mantissaBitsWithoutImplicit) := by positivity
    exact ⟨n, representable_natCast hle, le_rfl, by linarith⟩
  · have hlog : n.log2 = S.mantissaBitsWithoutImplicit + k := by omega
    have hunit : 2 ^ S.mantissaBitsWithoutImplicit * 2 ^ k ≤ n := by
      rw [← Nat.pow_add, ← hlog]
      exact Nat.log2_self_le hn
    have hceil : n ≤ (n / 2 ^ k + 1) * 2 ^ k :=
      (Nat.lt_mul_of_div_lt (Nat.lt_succ_self _) (Nat.two_pow_pos k)).le
    have hmantissa : n / 2 ^ k + 1 ≤ 2 ^ S.mantissaBits := by
      have hlt : n < 2 ^ k * 2 ^ S.mantissaBits := by
        rw [← Nat.pow_add]
        refine Nat.lt_log2_self.trans_le (Nat.pow_le_pow_right two_pos ?_)
        rw [mantissaBits_eq]
        omega
      exact Nat.div_lt_of_lt_mul hlt
    have hfloor : ((n / 2 ^ k : ℕ) : ℚ) * 2 ^ k ≤ n := by
      exact_mod_cast Nat.div_mul_le_self n (2 ^ k)
    have hstep : (2 : ℚ) ^ k ≤ n * (1 / 2 ^ S.mantissaBitsWithoutImplicit) := by
      rw [mul_one_div, le_div_iff₀ hfull, mul_comm]
      exact_mod_cast hunit
    refine ⟨(n / 2 ^ k + 1 : ℕ) * 2 ^ (k : ℤ), ⟨n / 2 ^ k + 1, k, hmantissa,
      (minExponent_nonpos S).trans (Int.natCast_nonneg k), rfl⟩, ?_, ?_⟩
    · rw [zpow_natCast]
      exact_mod_cast hceil
    · rw [zpow_natCast]
      push_cast
      linarith

lemma Faithful.le_mul (h : Faithful S n v) (hn : n ≠ 0) :
    v ≤ n * (1 + 1 / 2 ^ S.mantissaBitsWithoutImplicit) := by
  obtain ⟨T, hT, hle, hnear⟩ := exists_representable S hn
  exact ((h T hT).1 hle).trans hnear

end Columnar.Binary
