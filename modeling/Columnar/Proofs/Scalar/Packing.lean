import Columnar.Scalar.Exact
import Columnar.Proofs.Scalar.Rounding

namespace Columnar.Binary

open Float.Model Float.Model.UnpackedFloat

variable {S : Format} {s : Sign} {m : ℕ} {e : ℤ} {v : ℚ} {a : UnpackedFloat}

lemma toDecimal_eq (m : ℕ) (e : ℤ) :
    ((Exact.toDecimal m e).1 : ℚ) / 10 ^ (Exact.toDecimal m e).2 = m * 2 ^ e := by
  rw [Exact.toDecimal]
  split
  case isTrue he =>
    obtain ⟨k, rfl⟩ := Int.eq_ofNat_of_zero_le he
    simp
  case isFalse he =>
    obtain ⟨k, hk⟩ := Int.eq_ofNat_of_zero_le (by omega : 0 ≤ -e)
    obtain rfl : e = -k := by omega
    have hten : (10 : ℚ) ^ k = 5 ^ k * 2 ^ k := by rw [← mul_pow]; norm_num
    simp only [neg_neg, Int.toNat_natCast, Nat.pow_eq, Nat.cast_mul, Nat.cast_pow,
      Nat.cast_ofNat, zpow_neg, zpow_natCast, hten]
    field_simp

lemma minExponent_eq (S : Format) :
    S.minExponent = 1 - (S.exponentBias + S.mantissaBitsWithoutImplicit : ℕ) := by
  have hpow : 1 ≤ 2 ^ (S.exponentBits - 1) := Nat.one_le_two_pow
  rw [Format.minExponent, Format.exponentBias, mantissaBits_eq]
  push_cast [Nat.cast_sub hpow]
  ring

lemma pow_exponentBits (S : Format) : 2 ^ S.exponentBits = 2 * S.exponentBias + 2 := by
  have hpow : 1 ≤ 2 ^ (S.exponentBits - 1) := Nat.one_le_two_pow
  have hbits : S.exponentBits - 1 + 1 = S.exponentBits := Nat.sub_add_cancel S.he
  rw [Format.exponentBias, ← hbits, Nat.pow_succ, Nat.add_sub_cancel]
  omega

lemma toNat_unpackMantissa (b : BitVec S.numBits) :
    (unpackMantissa b).toNat = b.toNat % 2 ^ S.mantissaBitsWithoutImplicit := by
  have hbits := S.hm
  simp only [unpackMantissa, BitVec.toNat_cast, BitVec.extractLsb_toNat, Nat.shiftRight_zero]
  congr 2
  omega

lemma toNat_unpackExponent (b : BitVec S.numBits) :
    (unpackExponent b).toNat =
      b.toNat / 2 ^ S.mantissaBitsWithoutImplicit % 2 ^ S.exponentBits := by
  have hbits := S.he
  simp only [unpackExponent, BitVec.toNat_cast, BitVec.extractLsb_toNat, Nat.shiftRight_eq_div_pow]
  congr 2
  omega

lemma toNat_unpackSign (b : BitVec S.numBits) :
    (unpackSign b).toNat =
      b.toNat / 2 ^ S.mantissaBitsWithoutImplicit / 2 ^ S.exponentBits % 2 := by
  change (b.extractLsb (S.mantissaBitsWithoutImplicit + S.exponentBits) _).toNat = _
  simp only [BitVec.extractLsb_toNat, Nat.shiftRight_eq_div_pow, Nat.div_div_eq_div_mul,
    ← Nat.pow_add]
  congr 1
  simp

lemma toNat_hidden (x : BitVec S.mantissaBitsWithoutImplicit) :
    (1#1 ++ x).toNat = 2 ^ S.mantissaBitsWithoutImplicit + x.toNat := by
  rw [BitVec.toNat_append, ← Nat.shiftLeft_add_eq_or_of_lt x.isLt]
  simp [Nat.shiftLeft_eq]

lemma exponent_eq_zero_iff {x : BitVec S.exponentBits} : x = 0#_ ↔ x.toNat = 0 := by
  rw [← BitVec.toNat_inj, BitVec.toNat_zero]

lemma exponent_eq_ones_iff {x : BitVec S.exponentBits} :
    x = -1#_ ↔ x.toNat = 2 ^ S.exponentBits - 1 := by
  rw [← BitVec.toNat_inj, BitVec.neg_one_eq_allOnes, BitVec.toNat_allOnes]

lemma unpack_normal {b : BitVec S.numBits} (hzero : unpackExponent b ≠ 0#_)
    (hones : unpackExponent b ≠ -1#_) :
    ∃ h, unpack S b = .finite (.ofBitVec (unpackSign b))
      (2 ^ S.mantissaBitsWithoutImplicit + (unpackMantissa b).toNat)
      ((unpackExponent b).toNat - (S.exponentBias + S.mantissaBitsWithoutImplicit : ℕ)) h := by
  refine ⟨by positivity, (if_neg hones).trans ((if_neg hzero).trans ?_)⟩
  exact finite_congr rfl (toNat_hidden _) (by rw [Nat.cast_add])

lemma unpack_subnormal {b : BitVec S.numBits} (hzero : unpackExponent b = 0#_)
    (hm : unpackMantissa b ≠ 0#_) :
    ∃ h, unpack S b =
      .finite (.ofBitVec (unpackSign b)) (unpackMantissa b).toNat S.minExponent h := by
  have hones : unpackExponent b ≠ -1#_ := by
    rw [hzero, Ne, exponent_eq_ones_iff, pow_exponentBits, BitVec.toNat_zero]
    omega
  have hexponent :
    ((0#S.exponentBits).toNat - (S.exponentBias + S.mantissaBitsWithoutImplicit) + 1 : ℤ) =
      S.minExponent := by
    rw [minExponent_eq, BitVec.toNat_zero]
    push_cast
    ring
  refine ⟨by simpa [BitVec.toNat_pos, BitVec.pos_iff_ne_zero] using hm, ?_⟩
  refine (if_neg hones).trans ((if_pos hzero).trans ((dif_neg hm).trans (finite_congr rfl rfl ?_)))
  rw [hzero]
  exact hexponent

lemma unpack_zero {b : BitVec S.numBits} (hzero : unpackExponent b = 0#_)
    (hm : unpackMantissa b = 0#_) :
    unpack S b = .zero (.ofBitVec (unpackSign b)) := by
  have hones : unpackExponent b ≠ -1#_ := by
    rw [hzero, Ne, exponent_eq_ones_iff, pow_exponentBits, BitVec.toNat_zero]
    omega
  exact (if_neg hones).trans ((if_pos hzero).trans (dif_pos hm))

lemma unpack_infinity {b : BitVec S.numBits} (hones : unpackExponent b = -1#_)
    (hm : unpackMantissa b = 0#_) : unpack S b = .infinity (.ofBitVec (unpackSign b)) :=
  (if_pos hones).trans (if_pos hm)

lemma unpack_notANumber {b : BitVec S.numBits} (hones : unpackExponent b = -1#_)
    (hm : unpackMantissa b ≠ 0#_) : unpack S b = .notANumber :=
  (if_pos hones).trans (if_neg hm)

lemma pack_finite (h : 0 < m) : pack S (.finite s m e h) =
    if 2 ^ S.exponentBits ≤ (e + S.exponentBias + S.mantissaBitsWithoutImplicit).toNat + 1 then
      packedInfinity S s
    else if m.log2 + 1 = S.mantissaBits then
      packComponents S s (BitVec.ofNat _ (e + S.exponentBias + S.mantissaBitsWithoutImplicit).toNat)
        (BitVec.ofNat _ m)
    else packComponents S s 0#_ (BitVec.ofNat _ m) := rfl

lemma toNat_packComponents (s : Sign) (x : BitVec S.exponentBits)
    (y : BitVec S.mantissaBitsWithoutImplicit) : (packComponents S s x y).toNat =
      (s.toBitVec.toNat * 2 ^ S.exponentBits + x.toNat) * 2 ^ S.mantissaBitsWithoutImplicit +
        y.toNat := by
  rw [packComponents, BitVec.toNat_append, BitVec.toNat_append,
    ← Nat.shiftLeft_add_eq_or_of_lt y.isLt, ← Nat.shiftLeft_add_eq_or_of_lt x.isLt,
    Nat.shiftLeft_eq, Nat.shiftLeft_eq]

lemma unpackSign_packComponents (s : Sign) (x : BitVec S.exponentBits)
    (y : BitVec S.mantissaBitsWithoutImplicit) :
    unpackSign (packComponents S s x y) = s.toBitVec := by
  apply BitVec.eq_of_toNat_eq
  have hsign : s.toBitVec.toNat % 2 = s.toBitVec.toNat := Nat.mod_eq_of_lt s.toBitVec.isLt
  have hdrop : ∀ a b n : ℕ, b < 2 ^ n → (a * 2 ^ n + b) / 2 ^ n = a := by
    intro a b n hb
    rw [Nat.add_comm, Nat.add_mul_div_right _ _ (Nat.two_pow_pos n), Nat.div_eq_of_lt hb,
      Nat.zero_add]
  rw [toNat_unpackSign, toNat_packComponents, hdrop _ _ _ y.isLt, hdrop _ _ _ x.isLt, hsign]

lemma ofBitVec_toBitVec (s : Sign) : Sign.ofBitVec s.toBitVec = s := by
  cases s with
  | negative => rfl
  | positive => rfl

def topExponent (S : Format) : ℤ := S.exponentBias - S.mantissaBitsWithoutImplicit

lemma unpack_pack (h : 0 < m) (hc : Canonical S m e) (he : e ≤ topExponent S) :
    unpack S (pack S (.finite s m e h)) = .finite s m e h := by
  rw [topExponent] at he
  obtain ⟨field, hfield⟩ :
      ∃ n : ℕ, (e + S.exponentBias + S.mantissaBitsWithoutImplicit).toNat = n := ⟨_, rfl⟩
  have hmin := hc.minExponent_le
  rw [minExponent_eq] at hmin
  have hones : field + 1 < 2 ^ S.exponentBits := by
    rw [pow_exponentBits]
    omega
  have hlt : field < 2 ^ S.exponentBits := Nat.lt_of_succ_lt hones
  by_cases hfull : 2 ^ S.mantissaBitsWithoutImplicit ≤ m
  · have hlog : m.log2 + 1 = S.mantissaBits := by
      have hbits := hc.lt
      rw [pow_mantissaBits, Nat.mul_comm, ← Nat.pow_succ] at hbits
      rw [(Nat.log2_eq_iff h.ne').mpr ⟨hfull, hbits⟩, mantissaBits_eq, Nat.add_comm]
    have hpack : pack S (.finite s m e h) =
        packComponents S s (BitVec.ofNat _ field) (BitVec.ofNat _ m) := by
      rw [pack_finite, hfield, if_neg (Nat.not_le.mpr hones), if_pos hlog]
    have hexponent : (BitVec.ofNat S.exponentBits field).toNat = field := by
      rw [BitVec.toNat_ofNat, Nat.mod_eq_of_lt hlt]
    have hmantissa : 2 ^ S.mantissaBitsWithoutImplicit +
        (BitVec.ofNat S.mantissaBitsWithoutImplicit m).toNat = m := by
      have hbits := hc.lt
      rw [pow_mantissaBits] at hbits
      rw [BitVec.toNat_ofNat, Nat.mod_eq_sub_mod hfull, Nat.mod_eq_of_lt (by omega),
        Nat.add_sub_cancel' hfull]
    obtain ⟨_, hunpack⟩ := unpack_normal (b := pack S (.finite s m e h))
      (by
        rw [hpack, unpackExponent_packComponents, Ne, exponent_eq_zero_iff, hexponent]
        omega)
      (by
        rw [hpack, unpackExponent_packComponents, Ne, exponent_eq_ones_iff, hexponent]
        omega)
    have hfield' : (field - (S.exponentBias + S.mantissaBitsWithoutImplicit : ℕ) : ℤ) = e := by
      omega
    rw [hunpack]
    apply finite_congr
    · rw [hpack, unpackSign_packComponents, ofBitVec_toBitVec]
    · rw [hpack, unpackMantissa_packComponents, hmantissa]
    · rw [hpack, unpackExponent_packComponents, hexponent, hfield']
  · obtain rfl := hc.normal.resolve_left hfull
    have hlog : ¬ m.log2 + 1 = S.mantissaBits := by
      have hbits := (Nat.log2_lt h.ne').mpr (Nat.not_le.mp hfull)
      rw [mantissaBits_eq]
      omega
    have hpack : pack S (.finite s m S.minExponent h) =
        packComponents S s 0#_ (BitVec.ofNat _ m) := by
      rw [pack_finite, hfield, if_neg (Nat.not_le.mpr hones), if_neg hlog]
    have hmantissa : (BitVec.ofNat S.mantissaBitsWithoutImplicit m).toNat = m := by
      rw [BitVec.toNat_ofNat, Nat.mod_eq_of_lt (Nat.not_le.mp hfull)]
    obtain ⟨_, hunpack⟩ := unpack_subnormal (b := pack S (.finite s m S.minExponent h))
      (by rw [hpack, unpackExponent_packComponents])
      (by
        rw [hpack, unpackMantissa_packComponents, Ne, ← BitVec.toNat_inj, hmantissa]
        exact h.ne')
    rw [hunpack]
    apply finite_congr
    · rw [hpack, unpackSign_packComponents, ofBitVec_toBitVec]
    · rw [hpack, unpackMantissa_packComponents, hmantissa]
    · rfl

lemma unpack_pack_zero (s : Sign) : unpack S (pack S (.zero s)) = .zero s := by
  have hpack : pack S (.zero s) = packComponents S s 0#_ 0#_ := rfl
  rw [unpack_zero]
  · rw [hpack, unpackSign_packComponents, ofBitVec_toBitVec]
  · rw [hpack, unpackExponent_packComponents]
  · rw [hpack, unpackMantissa_packComponents]

@[irreducible] def bound (S : Format) : ℚ := 2 ^ (S.exponentBias + 1)

lemma bound_binary64 : bound .binary64 = 2 ^ 1024 := by
  rw [bound]
  rfl

def largest (S : Format) : ℚ := (2 ^ S.mantissaBits - 1) * 2 ^ topExponent S

lemma lt_bound_of_lt_largest (h : v < largest S) : v < bound S := by
  have hbound : bound S = 2 ^ S.mantissaBits * 2 ^ topExponent S := by
    rw [bound, ← zpow_natCast, ← zpow_natCast, ← zpow_add₀ two_ne_zero, topExponent,
      mantissaBits_eq]
    congr 1
    push_cast
    ring
  rw [hbound]
  exact h.trans (mul_lt_mul_two_zpow.mpr (by linarith))

section Bounded

variable (hbias : 1 ≤ S.exponentBias)

include hbias

lemma Canonical.exponent_le (hc : Canonical S m e) (hv : m * 2 ^ e < bound S) :
    e ≤ topExponent S := by
  rw [topExponent]
  rcases hc.normal with hfull | rfl
  · have hlt : (2 : ℚ) ^ (S.mantissaBitsWithoutImplicit + e : ℤ) <
        2 ^ (S.exponentBias + 1 : ℤ) := by
      calc (2 : ℚ) ^ (S.mantissaBitsWithoutImplicit + e : ℤ)
          = 2 ^ S.mantissaBitsWithoutImplicit * 2 ^ e := by rw [zpow_add₀ two_ne_zero, zpow_natCast]
        _ ≤ m * 2 ^ e := mul_le_mul_two_zpow.mpr (by exact_mod_cast hfull)
        _ < bound S := hv
        _ = 2 ^ (S.exponentBias + 1 : ℤ) := by
          rw [bound, ← zpow_natCast, Nat.cast_add, Nat.cast_one]
    have hexponents := (zpow_lt_zpow_iff_right₀ one_lt_two).mp hlt
    omega
  · rw [minExponent_eq]
    omega

lemma Magnitude.unpack_pack (h : Magnitude S v a) (hv : v < bound S) : unpack S (pack S a) = a := by
  rcases h.cases with ⟨s, rfl, -⟩ | ⟨s, m, e, hm, rfl, hc, rfl⟩
  · exact unpack_pack_zero s
  · exact Binary.unpack_pack hm hc (hc.exponent_le hbias hv)

lemma canonical_unpack {b : BitVec S.numBits} {h : 0 < m} (hb : unpack S b = .finite s m e h) :
    Canonical S m e ∧ e ≤ topExponent S := by
  rw [topExponent]
  have hfraction : (unpackMantissa b).toNat < 2 ^ S.mantissaBitsWithoutImplicit :=
    (unpackMantissa b).isLt
  have hfield : (unpackExponent b).toNat < 2 ^ S.exponentBits := (unpackExponent b).isLt
  have hpow := pow_exponentBits S
  by_cases hones : unpackExponent b = -1#_
  · by_cases hmantissa : unpackMantissa b = 0#_
    · rw [unpack_infinity hones hmantissa] at hb
      cases hb
    · rw [unpack_notANumber hones hmantissa] at hb
      cases hb
  · by_cases hzero : unpackExponent b = 0#_
    · by_cases hmantissa : unpackMantissa b = 0#_
      · rw [unpack_zero hzero hmantissa] at hb
        cases hb
      · obtain ⟨_, hunpack⟩ := unpack_subnormal hzero hmantissa
        rw [hunpack] at hb
        cases hb
        refine ⟨⟨?_, le_rfl, .inr rfl⟩, ?_⟩
        · rw [pow_mantissaBits]
          omega
        · rw [minExponent_eq]
          omega
    · obtain ⟨_, hunpack⟩ := unpack_normal hzero hones
      rw [hunpack] at hb
      rw [exponent_eq_zero_iff] at hzero
      rw [exponent_eq_ones_iff] at hones
      cases hb
      refine ⟨⟨?_, ?_, .inl (Nat.le_add_right _ _)⟩, ?_⟩
      · rw [pow_mantissaBits]
        omega
      · rw [minExponent_eq]
        omega
      · push_cast
        omega

end Bounded

def toExact (S : Format) : UnpackedFloat → Exact
  | .notANumber => .nan
  | .infinity s => .infinite (s == .negative)
  | .zero s => .finite (s == .negative) 0 S.minExponent
  | .finite s m e _ => .finite (s == .negative) m e

def interchange (S : Format) : BinaryFormat := ⟨S.mantissaBits, S.exponentBits⟩

lemma isNegative_ofBitVec (x : BitVec 1) : (Sign.ofBitVec x == .negative) = (x.toNat == 1) := by
  rcases BitVec.eq_zero_or_eq_one x with rfl | rfl
  · rfl
  · rfl

lemma decode_toNat (b : BitVec S.numBits) :
    (interchange S).decode b.toNat = toExact S (unpack S b) := by
  have hprecision : S.mantissaBits - 1 = S.mantissaBitsWithoutImplicit := by
    rw [mantissaBits_eq, Nat.add_sub_cancel_left]
  have hminExponent : BinaryFormat.minExponent ⟨S.mantissaBits, S.exponentBits⟩ =
      S.minExponent := by
    simp [BinaryFormat.minExponent, Format.minExponent]
  have hfraction := toNat_unpackMantissa b
  have hfield := toNat_unpackExponent b
  have hsign := isNegative_ofBitVec (unpackSign b)
  rw [toNat_unpackSign] at hsign
  simp only [BinaryFormat.decode, hminExponent, interchange, hprecision, Nat.pow_eq, ← hfraction,
    ← hfield, ← hsign]
  by_cases hones : unpackExponent b = -1#_
  · rw [if_pos (exponent_eq_ones_iff.mp hones)]
    by_cases hmantissa : unpackMantissa b = 0#_
    · rw [unpack_infinity hones hmantissa, hmantissa]
      rfl
    · have hne : (unpackMantissa b).toNat ≠ 0 := by
        rwa [Ne, ← BitVec.toNat_zero, BitVec.toNat_inj]
      rw [unpack_notANumber hones hmantissa]
      exact if_neg hne
  · rw [if_neg (mt exponent_eq_ones_iff.mpr hones)]
    by_cases hzero : unpackExponent b = 0#_
    · rw [if_pos (exponent_eq_zero_iff.mp hzero)]
      by_cases hmantissa : unpackMantissa b = 0#_
      · rw [unpack_zero hzero hmantissa, hmantissa]
        rfl
      · obtain ⟨_, hunpack⟩ := unpack_subnormal hzero hmantissa
        rw [hunpack]
        rfl
    · obtain ⟨_, hunpack⟩ := unpack_normal hzero hones
      rw [if_neg (mt exponent_eq_zero_iff.mpr hzero), hunpack, minExponent_eq]
      change Exact.finite _ _ _ = Exact.finite _ _ _
      congr 1
      push_cast
      ring

end Columnar.Binary
