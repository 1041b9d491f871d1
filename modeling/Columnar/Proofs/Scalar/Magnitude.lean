import Columnar.Proofs.Scalar.NotANumber
import Columnar.Proofs.Scalar.Packing

/-! How great the results of floating-point operations are. A result is no greater than a value of
the format that the exact result does not exceed. -/

namespace Columnar

open Binary Float.Model Float.Model.UnpackedFloat
open Unpacked (unpacked)

class Packed (α : Type) [Floating α] extends Unpacked α where
  spec : Format
  mantissaBits_le : spec.mantissaBits ≤ spec.exponentBias
  mantissaBits_lt : spec.mantissaBits < 64
  bits : α → BitVec spec.numBits
  unpacked_eq (a : α) : unpacked a = unpack spec (bits a)
  exact_eq (a : α) : Floating.exact a = (interchange spec).decode (bits a).toNat
  bits_neg (a : α) : bits (-a) = pack spec (unpacked a).neg
  bits_mul (a b : α) : bits (a * b) = pack spec (mul spec (unpacked a) (unpacked b))
  bits_div (a b : α) : bits (a / b) = pack spec (div spec (unpacked a) (unpacked b))

instance : Packed Float where
  spec := .binary64
  mantissaBits_le := by decide
  mantissaBits_lt := by decide
  bits a := a.toModel.toBits.toBitVec
  unpacked_eq _ := rfl
  exact_eq _ := rfl
  bits_neg _ := rfl
  bits_mul _ _ := rfl
  bits_div _ _ := rfl

instance : Packed Float32 where
  spec := .binary32
  mantissaBits_le := by decide
  mantissaBits_lt := by decide
  bits a := a.toModel.toBits.toBitVec
  unpacked_eq _ := rfl
  exact_eq _ := rfl
  bits_neg _ := rfl
  bits_mul _ _ := rfl
  bits_div _ _ := rfl

namespace Floating

def isPowerOfTen (k : ℕ) : UnpackedFloat → Bool
  | .finite .positive m e _ => m * 2 ^ e.toNat == 10 ^ k * 2 ^ (-e).toNat
  | _ => false

section Packed

variable {α : Type} [Floating α] [Packed α] {a b : α} {u : UnpackedFloat} {v w T : ℚ}

lemma one_le_exponentBias (α : Type) [Floating α] [Packed α] :
    1 ≤ (Packed.spec α).exponentBias := by
  refine le_trans ?_ Packed.mantissaBits_le
  rw [mantissaBits_eq]
  exact Nat.le_add_right _ _

def AtMost (T : ℚ) (a : α) : Prop := ∃ v ≤ T, Magnitude (Packed.spec α) v (unpacked a)

lemma unpacked_of_bits (h : Packed.bits a = pack (Packed.spec α) u)
    (hu : Magnitude (Packed.spec α) v u) (hv : v < bound (Packed.spec α)) : unpacked a = u := by
  rw [Packed.unpacked_eq, h, hu.unpack_pack (one_le_exponentBias α) hv]

lemma magnitude_of_bits (h : Packed.bits a = pack (Packed.spec α) u)
    (hu : Magnitude (Packed.spec α) v u) (hv : v < bound (Packed.spec α)) :
    Magnitude (Packed.spec α) v (unpacked a) := by
  rw [unpacked_of_bits h hu hv]
  exact hu

lemma magnitude_of_isPowerOfTen {k : ℕ} (h : isPowerOfTen k (unpacked a)) :
    Magnitude (Packed.spec α) (10 ^ k) (unpacked a) := by
  cases hu : unpacked a with
  | finite s m e hm =>
    rw [hu] at h
    cases s with
    | negative => cases h
    | positive =>
      have hvalue : (m * 2 ^ e.toNat : ℚ) = 10 ^ k * 2 ^ (-e).toNat := by exact_mod_cast eq_of_beq h
      rw [Packed.unpacked_eq] at hu
      refine ⟨(canonical_unpack (one_le_exponentBias α) hu).1, ?_⟩
      have hunit : (2 : ℚ) ^ e = 2 ^ e.toNat / 2 ^ (-e).toNat := zpow_eq_div e
      rw [hunit, ← mul_div_assoc, hvalue, mul_div_cancel_right₀ _ (by positivity)]
  | zero s =>
    rw [hu] at h
    cases h
  | infinity s =>
    rw [hu] at h
    cases h
  | notANumber =>
    rw [hu] at h
    cases h

lemma AtMost.neg (h : AtMost T a) (hT : T < bound (Packed.spec α)) : AtMost T (-a) := by
  obtain ⟨v, hv, hmagnitude⟩ := h
  have hneg : Magnitude (Packed.spec α) v (unpacked a).neg := by
    rcases hmagnitude.cases with ⟨s, hu, rfl⟩ | ⟨s, m, e, hm, hu, hc, rfl⟩
    · rw [hu]
      rfl
    · rw [hu]
      exact ⟨hc, rfl⟩
  exact ⟨v, hv, magnitude_of_bits (Packed.bits_neg a) hneg (hv.trans_lt hT)⟩

lemma AtMost.isNaN_eq_false (h : AtMost T a) : isNaN a = false := by
  obtain ⟨v, -, hmagnitude⟩ := h
  rw [Unpacked.isNaN_eq]
  rcases hmagnitude.cases with ⟨s, hu, -⟩ | ⟨s, m, e, hm, hu, -, -⟩
  · rw [hu]
    rfl
  · rw [hu]
    rfl

lemma beq_eq_false (ha : Magnitude (Packed.spec α) v (unpacked a))
    (hb : Magnitude (Packed.spec α) w (unpacked b)) (hne : v ≠ w) : (a == b) = false := by
  rw [Unpacked.beq_eq, Binary.beq_eq]
  rcases ha.cases with ⟨s, hx, rfl⟩ | ⟨s, m₁, e₁, h₁, hx, -, rfl⟩
  · rcases hb.cases with ⟨s', -, rfl⟩ | ⟨s', m₂, e₂, h₂, hy, -, -⟩
    · exact absurd rfl hne
    · rw [hx, hy]
      cases s' <;> rfl
  · rcases hb.cases with ⟨s', hy, -⟩ | ⟨s', m₂, e₂, h₂, hy, -, rfl⟩
    · rw [hx, hy]
      cases s <;> rfl
    · have hparts : (compare e₁ e₂).then (compare m₁ m₂) ≠ .eq := by
        intro h
        obtain ⟨he, hm⟩ := Ordering.then_eq_eq.mp h
        rw [Int.compare_eq_eq.mp he, Nat.compare_eq_eq.mp hm] at hne
        exact hne rfl
      rw [hx, hy]
      cases s with
      | positive =>
        cases s' with
        | positive =>
          change (some ((compare e₁ e₂).then (compare m₁ m₂)) == some .eq) = false
          simpa using hparts
        | negative => rfl
      | negative =>
        cases s' with
        | positive => rfl
        | negative =>
          change (some ((compare e₁ e₂).then (compare m₁ m₂)).swap == some .eq) = false
          simpa using hparts

lemma AtMost.exact (h : AtMost T a) :
    ∃ negative m e, Floating.exact a = .finite negative m e ∧ m * 2 ^ e ≤ T := by
  obtain ⟨v, hv, hmagnitude⟩ := h
  rw [Packed.exact_eq, decode_toNat, ← Packed.unpacked_eq]
  rcases hmagnitude.cases with ⟨s, hu, rfl⟩ | ⟨s, m, e, hm, hu, -, rfl⟩
  · rw [hu]
    exact ⟨_, _, _, rfl, by simpa using hv⟩
  · rw [hu]
    exact ⟨_, _, _, rfl, hv⟩

lemma unpacked_of_exact {negative : Bool} {m : ℕ} {e : ℤ} (hm : m ≠ 0)
    (h : Floating.exact a = .finite negative m e) :
    unpacked a =
      .finite (if negative then .negative else .positive) m e (Nat.pos_of_ne_zero hm) := by
  rw [Packed.exact_eq, decode_toNat, ← Packed.unpacked_eq] at h
  cases hu : unpacked a with
  | finite s m' e' hm' =>
    rw [hu] at h
    cases h
    cases s with
    | negative => rfl
    | positive => rfl
  | zero s =>
    rw [hu] at h
    cases h
    exact absurd rfl hm
  | infinity s =>
    rw [hu] at h
    cases h
  | notANumber =>
    rw [hu] at h
    cases h

lemma beq_of_exact {negative : Bool} {m : ℕ} {e : ℤ} (hm : m ≠ 0)
    (ha : Floating.exact a = .finite negative m e)
    (hb : Floating.exact b = .finite negative m e) : a == b := by
  have hunpacked := unpacked_of_exact hm ha
  have hself : a == a := by
    rw [beq_self_iff, Unpacked.isNaN_eq, hunpacked]
    exact Bool.false_ne_true
  rwa [Unpacked.beq_eq, unpacked_of_exact hm hb, ← hunpacked, ← Unpacked.beq_eq]

variable (hrep : Representable (Packed.spec α) T) (hbound : T < bound (Packed.spec α))

include hrep hbound

lemma atMost_mul (ha : Magnitude (Packed.spec α) v (unpacked a))
    (hb : Magnitude (Packed.spec α) w (unpacked b)) (hle : v * w ≤ T) : AtMost T (a * b) := by
  obtain ⟨r, hr, hfaithful⟩ := mul_faithful ha hb
  have hrT := (hfaithful T hrep).1 hle
  exact ⟨r, hrT, magnitude_of_bits (Packed.bits_mul a b) hr (hrT.trans_lt hbound)⟩

lemma atMost_div (ha : Magnitude (Packed.spec α) v (unpacked a))
    (hb : Magnitude (Packed.spec α) w (unpacked b)) (hw : 0 < w) (hle : v / w ≤ T) :
    AtMost T (a / b) := by
  obtain ⟨r, hr, hfaithful⟩ := div_faithful ha hb hw
  have hrT := (hfaithful T hrep).1 hle
  exact ⟨r, hrT, magnitude_of_bits (Packed.bits_div a b) hr (hrT.trans_lt hbound)⟩

variable {n k : ℕ}

omit hrep hbound in
lemma magnitude_of_ofNat (hn : n ≤ 2 ^ (Packed.spec α).mantissaBits)
    (ha : Packed.bits a = pack (Packed.spec α) (UnpackedFloat.ofNat (Packed.spec α) n)) :
    Magnitude (Packed.spec α) n (unpacked a) := by
  obtain ⟨v, hv, hfaithful⟩ := ofNat_faithful (Packed.spec α) n
  obtain ⟨hupper, hlower⟩ := hfaithful n (representable_natCast hn)
  obtain rfl : v = n := le_antisymm (hupper le_rfl) (hlower le_rfl)
  have hlt : n < 2 ^ ((Packed.spec α).exponentBias + 1) :=
    hn.trans_lt (Nat.pow_lt_pow_right one_lt_two (Nat.lt_succ_of_le Packed.mantissaBits_le))
  exact magnitude_of_bits ha hv (by rw [bound]; exact_mod_cast hlt)

lemma atMost_quotient (hn : n ≤ 2 ^ (Packed.spec α).mantissaBits)
    (ha : Packed.bits a = pack (Packed.spec α) (UnpackedFloat.ofUInt64 (Packed.spec α) n.toUInt64))
    (hb : isPowerOfTen k (unpacked b)) (hle : n / 10 ^ k ≤ T) : AtMost T (a / b) := by
  have hword : n.toUInt64.toNat = n :=
    Nat.mod_eq_of_lt (hn.trans_lt (Nat.pow_lt_pow_right one_lt_two Packed.mantissaBits_lt))
  rw [UnpackedFloat.ofUInt64, hword] at ha
  exact atMost_div hrep hbound (magnitude_of_ofNat hn ha) (magnitude_of_isPowerOfTen hb)
    (by positivity) hle

lemma atMost_of_ofScientific (hle : n / 10 ^ k ≤ T)
    (ha : Packed.bits a =
      pack (Packed.spec α) (UnpackedFloat.ofScientific (Packed.spec α) n (-k))) :
    AtMost T a := by
  by_cases hn : n = 0
  · subst hn
    have hT : 0 ≤ T := by simpa using hle
    have hzero :
        Magnitude (Packed.spec α) 0 (UnpackedFloat.ofScientific (Packed.spec α) 0 (-k)) := by
      rw [UnpackedFloat.ofScientific, dif_pos rfl]
      rfl
    exact ⟨0, hT, magnitude_of_bits ha hzero (hT.trans_lt hbound)⟩
  · obtain ⟨v, hv, hvT⟩ := ofScientific_le hn hrep hle
    exact ⟨v, hvT, magnitude_of_bits ha hv (hvT.trans_lt hbound)⟩

lemma atMost_of_dite {p : Prop} [Decidable p] {power : p → α} {rounded : α} (hle : n / 10 ^ k ≤ T)
    (hn : p → n ≤ 2 ^ (Packed.spec α).mantissaBits)
    (hpower : ∀ h, isPowerOfTen k (unpacked (power h)))
    (ha : Packed.bits a = pack (Packed.spec α) (UnpackedFloat.ofUInt64 (Packed.spec α) n.toUInt64))
    (hrounded : Packed.bits rounded =
      pack (Packed.spec α) (UnpackedFloat.ofScientific (Packed.spec α) n (-k))) :
    AtMost T (if h : p then a / power h else rounded) := by
  split
  case isTrue h => exact atMost_quotient hrep hbound (hn h) ha (hpower h) hle
  case isFalse => exact atMost_of_ofScientific hrep hbound hle hrounded

end Packed

end Floating

class Rounded (α : Type) [Floating α] extends Packed α where
  atMost_scaled {n k : ℕ} {T : ℚ} (hrep : Representable spec T) (hbound : T < bound spec)
    (hle : n / 10 ^ k ≤ T) : Floating.AtMost T (Floating.scaled n k : α)

lemma isPowerOfTen_exact : ∀ k : Fin 23,
    Floating.isPowerOfTen k (unpacked Float.exactlyRepresentablePowersOfTen[k]) := by
  decide +kernel

instance : Rounded Float where
  atMost_scaled {n k _} hrep hbound hle :=
    Floating.atMost_of_dite (p := n < 2 ^ 53 ∧ k ≤ 22) hrep hbound hle (fun h => h.1.le)
      (fun h => isPowerOfTen_exact ⟨k, Nat.lt_succ_of_le h.2⟩) rfl (Int.negOfNat_eq ▸ rfl)

instance : Rounded Float32 where
  atMost_scaled {n k _} hrep hbound hle := by
    have hpowers : ∀ k : Fin 11,
        Floating.isPowerOfTen k (unpacked Float32.exactlyRepresentablePowersOfTen[k]) := by
      decide +kernel
    exact Floating.atMost_of_dite (p := n < 2 ^ 23 ∧ k ≤ 10) hrep hbound hle
      (fun h => h.1.le.trans (by decide)) (fun h => hpowers ⟨k, Nat.lt_succ_of_le h.2⟩) rfl
      (Int.negOfNat_eq ▸ rfl)

namespace Floating

variable {α : Type} [Floating α] [Rounded α] {m : ℕ} {e : ℤ} {T : ℚ}

lemma atMost_round (hrep : Representable (Packed.spec α) T) (hbound : T < bound (Packed.spec α))
    (negative : Bool) (hle : m * 2 ^ e ≤ T) : AtMost T (round (.finite negative m e) : α) := by
  have hscaled : AtMost T (scaled (Exact.toDecimal m e).1 (Exact.toDecimal m e).2 : α) := by
    apply Rounded.atMost_scaled hrep hbound
    rw [toDecimal_eq]
    exact hle
  cases negative with
  | true => exact hscaled.neg hbound
  | false => exact hscaled

end Floating

end Columnar
