import Columnar.Json.Codec
import Columnar.Proofs.Decimal.Shortest
import Columnar.Proofs.Json.Numerals

namespace Columnar

def Numeral.significand (n : Numeral) : ℚ :=
  Decimal.value (n.whole ++ n.fraction) / 10 ^ n.fraction.length

lemma Numeral.value_whole_le (n : Numeral) : Decimal.value n.whole ≤ n.significand := by
  rw [significand, Decimal.value_append, le_div_iff₀ (by positivity)]
  exact_mod_cast Nat.le_add_right _ _

namespace Decimal

open Json Floating

variable {d : Decimal} {m k : ℕ}

lemma value_zeros (k : ℕ) : value (zeros k) = 0 := by
  induction k with
  | zero => rfl
  | succ k ih =>
    have hzero : value ['0'] = 0 := rfl
    rw [zeros, List.replicate_succ, ← List.singleton_append, value_append, ← zeros, ih, hzero,
      Nat.zero_mul]

lemma length_zeros (k : ℕ) : (zeros k).length = k := List.length_replicate

lemma value_zeros_append (k : ℕ) (ds : List Char) : value (zeros k ++ ds) = value ds := by
  rw [value_append, value_zeros, Nat.zero_mul, Nat.zero_add]

lemma allDigits_append {as bs : List Char} (ha : AllDigits as) (hb : AllDigits bs) :
    AllDigits (as ++ bs) := by
  intro c hc
  exact (List.mem_append.mp hc).elim (ha c) (hb c)

lemma allDigits_zeros (k : ℕ) : AllDigits (zeros k) := by
  intro c hc
  rw [List.eq_of_mem_replicate hc]
  rfl

lemma allDigits_digits (m : ℕ) : AllDigits (digits m) := fun _ => isDigit_of_mem_digits

lemma isWhole_digits_zeros (h : m = 0 → k = 0) : IsWhole (digits m ++ zeros k) := by
  refine ⟨allDigits_append (allDigits_digits m) (allDigits_zeros k), ?_⟩
  by_cases hm : m = 0
  · rw [hm, h hm, digits_zero]
    exact ⟨'0', [], rfl, fun _ => rfl⟩
  · obtain ⟨c, cs, hcs, hc⟩ := exists_digits_cons hm
    rw [hcs]
    exact ⟨c, cs ++ zeros k, rfl, fun hzero => absurd hzero hc⟩

lemma isWhole_take_digits (hk : k ≠ 0) : IsWhole ((digits m).take k) := by
  obtain ⟨hdigits, c, cs, hcs, hzero⟩ := isWhole_digits m
  obtain ⟨k, rfl⟩ := Nat.exists_eq_succ_of_ne_zero hk
  refine ⟨fun c hc => hdigits c (List.mem_of_mem_take hc), c, cs.take k, by rw [hcs]; rfl, ?_⟩
  intro hc
  rw [hzero hc, List.take_nil]

section InPlace

variable {style : Style} {n : Numeral}

lemma toRat_of_neg (h : d.exponent = -k) : d.toRat = d.coefficient / 10 ^ k := by
  rw [toRat, h, zpow_neg, zpow_natCast, div_eq_mul_inv]

lemma inPlace_cases (hpoint : style.pointZero = true) (d : Decimal) :
    let ds := digits d.coefficient
    (∃ k : ℕ, d.exponent = k ∧ inPlace style ds d.exponent = (ds ++ zeros k, zeros 1)) ∨
      (∃ k : ℕ, d.exponent = -k ∧ 0 < k ∧ k < ds.length ∧
        inPlace style ds d.exponent = (ds.take (ds.length - k), ds.drop (ds.length - k))) ∨
      ∃ k : ℕ, d.exponent = -k ∧ ds.length ≤ k ∧
        inPlace style ds d.exponent = (zeros 1, zeros (k - ds.length) ++ ds) := by
  intro ds
  rcases le_or_gt 0 d.exponent with he | he
  · obtain ⟨k, hk⟩ := Int.eq_ofNat_of_zero_le he
    refine .inl ⟨k, hk, ?_⟩
    rw [inPlace, if_pos he, hpoint, hk]
    rfl
  · obtain ⟨k, hk⟩ := Int.eq_ofNat_of_zero_le (by omega : 0 ≤ -d.exponent)
    have hneg : d.exponent = -k := by omega
    rcases lt_or_ge k ds.length with hlt | hle
    · refine .inr (.inl ⟨k, hneg, by omega, hlt, ?_⟩)
      rw [inPlace, if_neg (Int.not_le.mpr he), hk, Int.toNat_natCast]
      exact if_pos hlt
    · refine .inr (.inr ⟨k, hneg, hle, ?_⟩)
      rw [inPlace, if_neg (Int.not_le.mpr he), hk, Int.toNat_natCast]
      exact if_neg (Nat.not_lt.mpr hle)

lemma significand_inPlace (hpoint : style.pointZero = true)
    (h : inPlace style (digits d.coefficient) d.exponent = (n.whole, n.fraction)) :
    n.significand = d.toRat := by
  rcases inPlace_cases hpoint d with ⟨k, hk, hplace⟩ | ⟨k, hk, -, hlt, hplace⟩
    | ⟨k, hk, hle, hplace⟩
  · obtain ⟨hwhole, hfraction⟩ := Prod.ext_iff.mp (h.symm.trans hplace)
    simp only at hwhole hfraction
    have hvalue : value (digits d.coefficient ++ zeros k ++ zeros 1) =
        d.coefficient * 10 ^ k * 10 := by
      rw [value_append, value_append, value_digits, value_zeros, value_zeros, length_zeros,
        length_zeros]
      rfl
    rw [Numeral.significand, hwhole, hfraction, hvalue, toRat, hk, length_zeros, pow_one,
      zpow_natCast]
    push_cast
    rw [mul_div_cancel_right₀ _ (by norm_num)]
  · obtain ⟨hwhole, hfraction⟩ := Prod.ext_iff.mp (h.symm.trans hplace)
    simp only at hwhole hfraction
    rw [Numeral.significand, hwhole, hfraction, toRat_of_neg hk, List.take_append_drop,
      value_digits, List.length_drop, Nat.sub_sub_self hlt.le]
  · obtain ⟨hwhole, hfraction⟩ := Prod.ext_iff.mp (h.symm.trans hplace)
    simp only at hwhole hfraction
    rw [Numeral.significand, hwhole, hfraction, toRat_of_neg hk, value_zeros_append,
      value_zeros_append, value_digits, List.length_append, length_zeros, Nat.sub_add_cancel hle]

lemma isNumeral_inPlace (hpoint : style.pointZero = true) (hd : d.coefficient = 0 → d.exponent = 0)
    (h : inPlace style (digits d.coefficient) d.exponent = (n.whole, n.fraction))
    (hexponent : n.exponent = none) :
    n.fraction ≠ [] ∧ IsNumeral n := by
  suffices hshape : n.fraction ≠ [] ∧ IsWhole n.whole ∧ AllDigits n.fraction by
    obtain ⟨hne, hwhole, hfraction⟩ := hshape
    exact ⟨hne, hwhole, hfraction, by simp [hexponent]⟩
  have hdigits := allDigits_digits d.coefficient
  rcases inPlace_cases hpoint d with ⟨k, hk, hplace⟩ | ⟨k, -, hpos, hlt, hplace⟩ | ⟨k, -, -, hplace⟩
  · obtain ⟨hwhole, hfraction⟩ := Prod.ext_iff.mp (h.symm.trans hplace)
    simp only at hwhole hfraction
    rw [hwhole, hfraction]
    exact ⟨List.cons_ne_nil _ _, isWhole_digits_zeros fun hzero => by have := hd hzero; omega,
      allDigits_zeros 1⟩
  · obtain ⟨hwhole, hfraction⟩ := Prod.ext_iff.mp (h.symm.trans hplace)
    simp only at hwhole hfraction
    have hlength :
        ((digits d.coefficient).drop ((digits d.coefficient).length - k)).length ≠ 0 := by
      rw [List.length_drop]
      omega
    rw [hwhole, hfraction]
    exact ⟨fun hnil => hlength (List.length_eq_zero_iff.mpr hnil), isWhole_take_digits (by omega),
      fun c hc => hdigits c (List.mem_of_mem_drop hc)⟩
  · obtain ⟨hwhole, hfraction⟩ := Prod.ext_iff.mp (h.symm.trans hplace)
    simp only at hwhole hfraction
    rw [hwhole, hfraction]
    exact ⟨List.append_ne_nil_of_right_ne_nil _ (digits_ne_nil _),
      ⟨allDigits_zeros 1, '0', [], rfl, fun _ => rfl⟩, allDigits_append (allDigits_zeros _) hdigits⟩

end InPlace

def leading (d : Decimal) : ℤ := d.exponent + (digits d.coefficient).length - 1

lemma toRat_nonneg (d : Decimal) : 0 ≤ d.toRat :=
  mul_nonneg (Nat.cast_nonneg _) (zpow_pos (by norm_num) _).le

lemma toRat_lt (d : Decimal) : d.toRat < 10 ^ (d.leading + 1) := by
  have hlt : (d.coefficient : ℚ) < 10 ^ (digits d.coefficient).length := by
    exact_mod_cast lt_pow_length_digits d.coefficient
  have hexponent : d.leading + 1 = (digits d.coefficient).length + d.exponent := by
    rw [leading]
    ring
  rw [hexponent, zpow_add₀ (by norm_num), zpow_natCast, toRat]
  exact mul_lt_mul_of_pos_right hlt (zpow_pos (by norm_num) _)

lemma le_toRat (hd : d.coefficient ≠ 0) : 10 ^ d.leading ≤ d.toRat := by
  have hle : (10 : ℚ) ^ (digits d.coefficient).length ≤ 10 * d.coefficient := by
    exact_mod_cast pow_length_digits_le hd
  have hexponent : d.leading + 1 = (digits d.coefficient).length + d.exponent := by
    rw [leading]
    ring
  have hten : (10 : ℚ) * 10 ^ d.leading = 10 ^ (digits d.coefficient).length * 10 ^ d.exponent := by
    rw [← zpow_natCast, ← zpow_add₀ (by norm_num), ← hexponent,
      zpow_add_one₀ (by norm_num), mul_comm]
  have hmul : (10 : ℚ) * 10 ^ d.leading ≤ 10 * d.toRat := by
    rw [hten, toRat, ← mul_assoc]
    exact mul_le_mul_of_nonneg_right hle (zpow_pos (by norm_num) _).le
  linarith

def exponentDigits (x : ℤ) : List Char := (if 0 ≤ x then ['+'] else []) ++ signed x

lemma exponentDigits_eq (x : ℤ) :
    exponentDigits x = (if 0 ≤ x then '+' else '-') :: digits x.natAbs := by
  rw [exponentDigits, signed]
  split
  case isTrue h => rw [if_neg (by omega)]; rfl
  case isFalse h => rw [if_pos (by omega)]; rfl

lemma isExponent_exponentDigits (x : ℤ) : IsExponent (exponentDigits x) := by
  rw [exponentDigits_eq]
  refine ⟨[if 0 ≤ x then '+' else '-'], _, rfl, ?_, allDigits_digits _, digits_ne_nil _⟩
  split
  · exact .inr (.inl rfl)
  · exact .inr (.inr rfl)

/-- The digits are in their places, and so few stand before the point that a word holds the number;
or one digit stands before the point, and its exponent is written. -/
inductive Shape (d : Decimal) (n : Numeral) : Prop
  | inPlace (hexponent : n.exponent = none) (hfraction : n.fraction ≠ [])
      (hvalue : n.significand = d.toRat) (hlt : d.toRat < 10 ^ 16)
  | leading (hexponent : n.exponent = some (exponentDigits d.leading))
      (hvalue : n.significand * 10 ^ d.leading = d.toRat) (hd : d.coefficient ≠ 0)

lemma Shape.significand_lt {n : Numeral} (h : Shape d n) : n.significand < 10 ^ 16 := by
  rcases h with ⟨-, -, hvalue, hlt⟩ | ⟨-, hvalue, -⟩
  · rwa [hvalue]
  · have hlt := toRat_lt d
    have hten : (0 : ℚ) < 10 ^ d.leading := zpow_pos (by norm_num) _
    rw [← hvalue, zpow_add_one₀ (by norm_num), mul_comm] at hlt
    exact ((mul_lt_mul_iff_right₀ hten).mp hlt).trans (by norm_num)

lemma write_json (f : BinaryFormat) (negative : Bool) (hd : d.coefficient = 0 → d.exponent = 0) :
    ∃ n, write (jsonStyle f) negative d = n ∧ n.negative = negative ∧ IsNumeral n ∧ Shape d n := by
  obtain ⟨first, below, hstyle, hbelow⟩ :
      ∃ first below, (jsonStyle f).inPlace = some (first, below) ∧ below ≤ 16 := by
    simp only [jsonStyle]
    split
    · exact ⟨_, _, rfl, by decide⟩
    · exact ⟨_, _, rfl, le_rfl⟩
  obtain ⟨whole, fraction, hplace⟩ : ∃ whole fraction,
      inPlace (jsonStyle f) (digits d.coefficient) d.exponent = (whole, fraction) := ⟨_, _, rfl⟩
  by_cases hplain : d.coefficient = 0 ∨ first ≤ d.leading ∧ d.leading < below
  · obtain ⟨hfraction, hnumeral⟩ :=
      isNumeral_inPlace (n := ⟨negative, whole, fraction, none⟩) rfl hd hplace rfl
    refine ⟨_, ?_, rfl, hnumeral, .inPlace rfl hfraction (significand_inPlace rfl hplace) ?_⟩
    · rw [write, hstyle, hplace]
      apply if_pos
      rw [leading] at hplain
      simpa using hplain
    · rcases hplain with hzero | ⟨-, hlt⟩
      · rw [toRat, hzero, Nat.cast_zero, zero_mul]
        positivity
      · calc d.toRat
            < 10 ^ (d.leading + 1) := toRat_lt d
          _ ≤ 10 ^ (16 : ℤ) := zpow_le_zpow_right₀ (by norm_num) (by omega)
  · have hd' : d.coefficient ≠ 0 := fun hzero => hplain (.inl hzero)
    have hpos : 0 < (digits d.coefficient).length := List.length_pos_of_ne_nil (digits_ne_nil _)
    refine ⟨⟨negative, (digits d.coefficient).take 1, (digits d.coefficient).drop 1,
      some (exponentDigits d.leading)⟩, ?_, rfl, ?_, .leading rfl ?_ hd'⟩
    · rw [write, hstyle]
      rw [leading] at hplain
      rw [if_neg (by simpa using hplain)]
      simp [exponentDigits, leading, jsonStyle]
    · refine ⟨isWhole_take_digits one_ne_zero,
        fun c hc => allDigits_digits _ c (List.mem_of_mem_drop hc), ?_⟩
      rintro e ⟨⟩
      exact isExponent_exponentDigits _
    · have hexponent : d.leading = ((digits d.coefficient).length - 1 : ℕ) + d.exponent := by
        rw [leading]
        omega
      rw [Numeral.significand, List.take_append_drop, value_digits, List.length_drop, hexponent,
        zpow_add₀ (by norm_num), zpow_natCast, toRat, ← mul_assoc,
        div_mul_cancel₀ _ (by positivity)]

end Decimal

end Columnar
