import Columnar.Proofs.Json.Reals

/-! A finite floating-point number is written as a numeral, and a number that is not much greater is
read back; only next to the greatest numbers can it be the greatest itself. -/

namespace Columnar.Floating

open Binary Float.Model Json
open Unpacked (unpacked)

variable {S : Format} {negative : Bool} {j c m : ℕ} {e : ℤ} {R T : ℚ}

lemma one_lt_pow_mantissaBits (S : Format) : 1 < 2 ^ S.mantissaBits := by
  apply Nat.one_lt_two_pow
  rw [mantissaBits_eq]
  omega

def IsTop (S : Format) (j m : ℕ) (e : ℤ) : Prop := e = topExponent S ∧ 2 ^ S.mantissaBits ≤ m + j

lemma upper_le (hc : Canonical S m e) (he : e ≤ topExponent S)
    (hj : j + 1 ≤ 2 ^ S.mantissaBitsWithoutImplicit) (h : ¬ IsTop S j m e) :
    Decimal.upper m e ≤ (2 ^ S.mantissaBits - j - 1 / 2) * 2 ^ topExponent S := by
  rw [Decimal.upper_eq]
  rcases he.lt_or_eq with hlt | rfl
  · have hm : (m : ℚ) + 1 ≤ 2 ^ S.mantissaBits := by exact_mod_cast hc.lt
    have hhalf : (2 : ℚ) ^ S.mantissaBits = 2 * 2 ^ S.mantissaBitsWithoutImplicit := by
      exact_mod_cast pow_mantissaBits S
    have hj' : (j : ℚ) + 1 ≤ 2 ^ S.mantissaBitsWithoutImplicit := by exact_mod_cast hj
    have hunit : (2 : ℚ) * 2 ^ e ≤ 2 ^ topExponent S := by
      rw [mul_comm, ← zpow_add_one₀ two_ne_zero]
      exact zpow_le_zpow_right₀ one_le_two hlt
    have hpos := two_zpow_pos e
    calc (m + 1 / 2 : ℚ) * 2 ^ e
        ≤ 2 ^ S.mantissaBits * 2 ^ e := mul_le_mul_two_zpow.mpr (by linarith)
      _ = 2 ^ S.mantissaBitsWithoutImplicit * (2 * 2 ^ e) := by
          rw [hhalf]
          ring
      _ ≤ 2 ^ S.mantissaBitsWithoutImplicit * 2 ^ topExponent S := by gcongr
      _ ≤ (2 ^ S.mantissaBits - j - 1 / 2) * 2 ^ topExponent S :=
        mul_le_mul_two_zpow.mpr (by linarith)
  · have hm : m + j + 1 ≤ 2 ^ S.mantissaBits := Nat.lt_of_not_le fun hle => h ⟨rfl, hle⟩
    have hm' : (m : ℚ) + j + 1 ≤ 2 ^ S.mantissaBits := by exact_mod_cast hm
    exact mul_le_mul_two_zpow.mpr (by linarith)

/-- Below the `j` greatest values there is room for the steps of reading: what is read is at most
`R`, and that is rounded to at most `T`. -/
structure Margin (S : Format) (j : ℕ) (R T : ℚ) : Prop where
  few : j + 1 ≤ 2 ^ S.mantissaBitsWithoutImplicit
  read : Representable .binary64 R
  read_lt : R < bound .binary64
  word_le : 2 ^ 65 ≤ R
  enough : (2 ^ S.mantissaBits - j - 1 / 2) * 2 ^ topExponent S * (1 + 1 / 2 ^ 52) ^ 2 ≤ R
  read_le : R ≤ T
  kept : Representable S T
  kept_lt : T < largest S

lemma Margin.kept_lt_bound (h : Margin S j R T) : T < bound S := lt_bound_of_lt_largest h.kept_lt

section Written

variable (α : Type) [Floating α]

def numeral (negative : Bool) (m : ℕ) (e : ℤ) : Numeral :=
  write α (jsonStyle (format α)) negative m e

lemma exists_shape (negative : Bool) (m : ℕ) (e : ℤ) :
    IsNumeral (numeral α negative m e) ∧
      ∃ d : Decimal, d.Shape (numeral α negative m e) ∧ d.toRat ≤ Decimal.upper m e := by
  rw [numeral, write]
  split
  case isTrue hm =>
    obtain ⟨n, hn, -, hnumeral, hshape⟩ :=
      Decimal.write_json (d := ⟨0, 0⟩) (format α) negative fun _ => rfl
    rw [hn]
    refine ⟨hnumeral, _, hshape, ?_⟩
    have hpos := two_zpow_pos e
    rw [Decimal.toRat, Nat.cast_zero, zero_mul, Decimal.upper_eq]
    positivity
  case isFalse hm =>
    obtain ⟨hd, hle⟩ := Decimal.near_shortest hm .even e ((format α).narrowBelow m e)
    obtain ⟨n, hn, -, hnumeral, hshape⟩ :=
      Decimal.write_json (format α) negative fun hzero => absurd hzero hd
    rw [show (jsonStyle (format α)).tie = .even from rfl, hn]
    exact ⟨hnumeral, _, hshape, hle⟩

end Written

lemma quantity?_eq {d : Decimal} {n : Numeral} (h : d.Shape n) :
    quantity? n = (real? n).map .real := by
  rw [quantity?]
  apply if_neg
  rcases h with ⟨-, hfraction, -, -⟩ | ⟨hexponent, -, -⟩
  · simp [hfraction]
  · simp [hexponent]

section Rounded

variable {α : Type} [Floating α] [Rounded α] {a : α}

lemma canonical_exact (h : exact a = .finite negative m e) :
    Canonical (Packed.spec α) m e ∧ e ≤ topExponent (Packed.spec α) := by
  rw [Packed.exact_eq, decode_toNat] at h
  cases hu : UnpackedFloat.unpack (Packed.spec α) (Packed.bits a) with
  | finite s m e hm =>
    rw [hu] at h
    cases h
    exact canonical_unpack (one_le_exponentBias α) hu
  | zero s =>
    rw [hu] at h
    cases h
    have hbias := one_le_exponentBias α
    refine ⟨⟨Nat.two_pow_pos _, le_rfl, .inr rfl⟩, ?_⟩
    rw [minExponent_eq, topExponent]
    omega
  | infinity s =>
    rw [hu] at h
    cases h
  | notANumber =>
    rw [hu] at h
    cases h

lemma exists_decode? (h : Margin (Packed.spec α) j R T)
    (hupper : Decimal.upper m e ≤
      (2 ^ (Packed.spec α).mantissaBits - j - 1 / 2) * 2 ^ topExponent (Packed.spec α))
    (negative : Bool) :
    ∃ y : α, decode? (.ofNumeral (numeral α negative m e)) = some y ∧ AtMost T y := by
  obtain ⟨-, d, hshape, hd⟩ := exists_shape α negative m e
  have hle : d.toRat * (1 + 1 / 2 ^ 52) ^ 2 ≤ R :=
    (mul_le_mul_of_nonneg_right (hd.trans hupper) (by positivity)).trans h.enough
  obtain ⟨y, hy, hyR⟩ := exists_real? hshape h.read h.read_lt h.word_le hle
  obtain ⟨z, hz, hzR⟩ : ∃ z, real? (numeral α negative m e) = some z ∧ AtMost R z := by
    refine ⟨_, hy, ?_⟩
    split
    · exact hyR.neg h.read_lt
    · exact hyR
  obtain ⟨negative', m', e', hexact, hle'⟩ := hzR.exact
  refine ⟨round (exact z), ?_, ?_⟩
  · simp only [ofNumeral, decode?, quantity?_eq hshape, hz]
    rfl
  · rw [hexact]
    exact atMost_round h.kept h.kept_lt_bound negative' (hle'.trans h.read_le)

section Least

variable (hleast : exact (Number.least : α) = .finite true (2 ^ (Packed.spec α).mantissaBits - 1)
  (topExponent (Packed.spec α)))

include hleast

lemma magnitude_least : Magnitude (Packed.spec α) (largest (Packed.spec α))
    (unpacked (Number.least : α)) := by
  have hpos := one_lt_pow_mantissaBits (Packed.spec α)
  rw [unpacked_of_exact (by omega) hleast]
  refine ⟨(canonical_exact hleast).1, ?_⟩
  rw [largest, Nat.cast_sub hpos.le]
  push_cast
  rfl

lemma beq_least (h : exact a = .finite true m e) (htop : IsTop (Packed.spec α) 1 m e) :
    a == Number.least := by
  have hlt := (canonical_exact h).1.lt
  have hpos := one_lt_pow_mantissaBits (Packed.spec α)
  obtain ⟨rfl, hm⟩ := htop
  obtain rfl : m = 2 ^ (Packed.spec α).mantissaBits - 1 := by omega
  exact beq_of_exact (by omega) h hleast

end Least

def reread (α : Type) [Floating α] (negative : Bool) (m : ℕ) (e : ℤ) : Option (Bool × Bool) :=
  (decode? (.ofNumeral (numeral α negative m e))).map fun y : α => (isNaN y, y == Number.least)

def ReadBack (α : Type) [Floating α] [Rounded α] (c : ℕ) (negative : Bool) (m : ℕ) (e : ℤ) : Prop :=
  ∃ y : α, decode? (.ofNumeral (numeral α negative m e)) = some y ∧ isNaN y = false ∧
    ((y == Number.least) = true ↔ negative ∧ IsTop (Packed.spec α) c m e)

lemma readBack_of_top
    (htop : ∀ k < j, ∀ negative, reread α negative (2 ^ (Packed.spec α).mantissaBits - 1 - k)
      (topExponent (Packed.spec α)) = some (false, negative && decide (k < c)))
    (hc : Canonical (Packed.spec α) m e) (h : IsTop (Packed.spec α) j m e) (negative : Bool) :
    ReadBack α c negative m e := by
  obtain ⟨rfl, hm⟩ := h
  have hlt := hc.lt
  obtain ⟨k, hk⟩ : ∃ k, 2 ^ (Packed.spec α).mantissaBits - 1 - m = k := ⟨_, rfl⟩
  have hmk : 2 ^ (Packed.spec α).mantissaBits - 1 - k = m := by omega
  -- What rounding adds could reach the least number here, so these are read one by one.
  have hread := htop k (by omega) negative
  rw [hmk, reread, Option.map_eq_some_iff] at hread
  obtain ⟨y, hy, hvalues⟩ := hread
  obtain ⟨hnan, hequal⟩ := Prod.ext_iff.mp hvalues
  simp only at hnan hequal
  refine ⟨y, hy, hnan, ?_⟩
  rw [hequal, Bool.and_eq_true, decide_eq_true_eq, IsTop]
  constructor
  · rintro ⟨hnegative, hkc⟩
    exact ⟨hnegative, rfl, by omega⟩
  · rintro ⟨hnegative, -, hmc⟩
    exact ⟨hnegative, by omega⟩

lemma readBack_of_not_top (hmargin : Margin (Packed.spec α) j R T) (hcj : c ≤ j)
    (hleast : exact (Number.least : α) = .finite true (2 ^ (Packed.spec α).mantissaBits - 1)
      (topExponent (Packed.spec α)))
    (hc : Canonical (Packed.spec α) m e) (he : e ≤ topExponent (Packed.spec α))
    (h : ¬ IsTop (Packed.spec α) j m e) (negative : Bool) : ReadBack α c negative m e := by
  obtain ⟨y, hy, hyT⟩ := exists_decode? hmargin (upper_le hc he hmargin.few h) negative
  have hnan := hyT.isNaN_eq_false
  obtain ⟨v, hv, hmagnitude⟩ := hyT
  have hne := beq_eq_false hmagnitude (magnitude_least hleast) (hv.trans_lt hmargin.kept_lt).ne
  refine ⟨y, hy, hnan, ?_⟩
  rw [hne]
  refine iff_of_false Bool.false_ne_true ?_
  rintro ⟨-, htop, hm⟩
  exact h ⟨htop, by omega⟩

end Rounded

lemma mantissaBits_binary64 : Format.binary64.mantissaBits = 53 := rfl

lemma mantissaBits_binary32 : Format.binary32.mantissaBits = 24 := rfl

lemma margin_binary64 : Margin .binary64 7 ((2 ^ 53 - 2) * 2 ^ (971 : ℤ))
    ((2 ^ 53 - 2) * 2 ^ (971 : ℤ)) := by
  have hlt : ((2 ^ 53 - 2) * 2 ^ (971 : ℤ) : ℚ) < largest .binary64 :=
    mul_lt_mul_two_zpow.mpr (by norm_num [mantissaBits_binary64])
  have hrepresentable : Representable .binary64 ((2 ^ 53 - 2) * 2 ^ (971 : ℤ)) :=
    ⟨2 ^ 53 - 2, 971, by decide, by decide, by norm_num⟩
  have hword : (2 : ℚ) ^ 65 ≤ 2 ^ (971 : ℤ) := by
    rw [← zpow_natCast]
    exact zpow_le_zpow_right₀ one_le_two (by decide)
  refine ⟨by decide, hrepresentable, lt_bound_of_lt_largest hlt, ?_, ?_, le_rfl,
    hrepresentable, hlt⟩
  · exact hword.trans (le_mul_of_one_le_left (two_zpow_pos _).le (by norm_num))
  · rw [mul_right_comm]
    exact mul_le_mul_two_zpow.mpr (by norm_num [mantissaBits_binary64])

lemma margin_binary32 : Margin .binary32 2 ((2 ^ 26 - 9) * 2 ^ (102 : ℤ))
    ((2 ^ 24 - 2) * 2 ^ (104 : ℤ)) where
  few := by decide
  read := ⟨2 ^ 26 - 9, 102, by decide, by decide, by norm_num⟩
  read_lt := by
    have hlt : (2 : ℚ) ^ 128 < 2 ^ 1024 := pow_lt_pow_right₀ one_lt_two (by decide)
    rw [bound_binary64]
    exact lt_trans (by norm_num) hlt
  word_le := by norm_num
  enough := by
    rw [show topExponent .binary32 = 104 from rfl]
    norm_num [mantissaBits_binary32]
  read_le := by norm_num
  kept := ⟨2 ^ 24 - 2, 104, by decide, by decide, by norm_num⟩
  kept_lt := mul_lt_mul_two_zpow.mpr (by norm_num [mantissaBits_binary32])

/-- The `top` greatest numbers are checked one by one; the `merged` least are read as the least. -/
class Reread (α : Type) [Floating α] extends Rounded α where
  top : ℕ
  merged : ℕ
  margin : ∃ R T, Margin spec top R T
  merged_le : merged ≤ top
  exact_least : exact (Number.least : α) =
    .finite true (2 ^ spec.mantissaBits - 1) (topExponent spec)
  reread_eq : ∀ k < top, ∀ negative, reread α negative (2 ^ spec.mantissaBits - 1 - k)
    (topExponent spec) = some (false, negative && decide (k < merged))

instance : Reread Float where
  top := 7
  merged := 2
  margin := ⟨_, _, margin_binary64⟩
  merged_le := by decide
  exact_least := by decide +kernel
  reread_eq := by decide +kernel

instance : Reread Float32 where
  top := 2
  merged := 1
  margin := ⟨_, _, margin_binary32⟩
  merged_le := by decide
  exact_least := by decide +kernel
  reread_eq := by decide +kernel

lemma readBack {α : Type} [Floating α] [Reread α] {a : α} (h : exact a = .finite negative m e) :
    ReadBack α (Reread.merged α) negative m e := by
  obtain ⟨hc, he⟩ := canonical_exact h
  obtain ⟨R, T, hmargin⟩ := Reread.margin (α := α)
  by_cases htop : IsTop (Packed.spec α) (Reread.top α) m e
  · exact readBack_of_top Reread.reread_eq hc htop negative
  · exact readBack_of_not_top hmargin Reread.merged_le Reread.exact_least hc he htop negative

end Columnar.Floating
