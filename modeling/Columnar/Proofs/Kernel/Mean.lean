import Columnar.Proofs.Kernel.Extremum
import Columnar.Proofs.Result
import Columnar.Proofs.Scalar.Quotient
import Mathlib.Algebra.Order.BigOperators.Group.List

/-! The sum of integers has wrapped around when the mean divides it, so the mean is the truncated
quotient of the exact sum where that sum is of the type, and nowhere else. -/

namespace Columnar

namespace Reduction

lemma orElse_eq_ok_iff {γ : Type} {e : Error} {o : Option γ} {c : γ} :
    orElse e o = .ok c ↔ o = some c := by
  cases o with
  | none => simp [orElse]
  | some d => simp [orElse]

section Number

variable {α : Type} [Number α]

lemma mean_eq_ok_iff {as : List α} {m : α} :
    mean as = .ok m ↔
      as ≠ [] ∧ ∃ n, Number.ofNat? as.length = some n ∧ Number.div (sum as) n = m := by
  cases as with
  | nil => simp [mean, checkNonempty, bind, Except.bind]
  | cons a as =>
    have hmean : mean (a :: as) = count α (a :: as).length >>= fun n =>
      .ok (Number.div (sum (a :: as)) n) := rfl
    rw [hmean, bind_eq_ok]
    simp [count, orElse_eq_ok_iff]

end Number

end Reduction

section Quotients

lemma tdiv_bounds (s : Int) {n : Int} (hn : 0 < n) :
    s.tdiv n * n - n < s ∧ s < s.tdiv n * n + n ∧ (0 ≤ s → s.tdiv n * n ≤ s) := by
  have hsplit := Int.mul_tdiv_add_tmod s n
  have hlt := Int.tmod_lt_of_pos s hn
  have hgt := Int.lt_tmod_of_pos s hn
  rw [Int.mul_comm] at hsplit
  refine ⟨by omega, by omega, fun hs => ?_⟩
  have hpos := Int.tmod_nonneg n hs
  omega

lemma le_tdiv {lo s n : Int} (hn : 0 < n) (h : lo * n ≤ s) : lo ≤ s.tdiv n := by
  by_contra hlt
  have hmul : (s.tdiv n + 1) * n ≤ lo * n :=
    Int.mul_le_mul_of_nonneg_right (by omega) (Int.le_of_lt hn)
  have hbounds := tdiv_bounds s hn
  rw [Int.add_mul, Int.one_mul] at hmul
  omega

lemma tdiv_le {hi s n : Int} (hn : 0 < n) (h : s ≤ hi * n) : s.tdiv n ≤ hi := by
  have hneg : -hi ≤ (-s).tdiv n := by
    apply le_tdiv hn
    rw [Int.neg_mul]
    omega
  rw [Int.neg_tdiv] at hneg
  omega

end Quotients

namespace Fixed

variable {t : IntegerType}

def exactSum (as : List (Fixed t)) : Int := (as.map val).sum

lemma sum_eq_wrap (as : List (Fixed t)) : Reduction.sum as = wrap t (exactSum as) := by
  have hfold := foldl_add (zero : Fixed t) as
  rw [zero, Int.zero_add] at hfold
  exact hfold

lemma mul_length_le_exactSum {lo : Int} {as : List (Fixed t)} (h : ∀ a ∈ as, lo ≤ a.val) :
    lo * as.length ≤ exactSum as := by
  have hsum := List.card_nsmul_le_sum (as.map val) lo (List.forall_mem_map.mpr h)
  rw [List.length_map, Int.nsmul_eq_mul, Int.mul_comm] at hsum
  exact hsum

lemma exactSum_le_mul_length {hi : Int} {as : List (Fixed t)} (h : ∀ a ∈ as, a.val ≤ hi) :
    exactSum as ≤ hi * as.length := by
  have hsum := List.sum_le_card_nsmul (as.map val) hi (List.forall_mem_map.mpr h)
  rw [List.length_map, Int.nsmul_eq_mul, Int.mul_comm] at hsum
  exact hsum

lemma exactSum_nonneg (ht : t.least = 0) (as : List (Fixed t)) : 0 ≤ exactSum as := by
  have hsum : 0 * (as.length : Int) ≤ exactSum as := by
    apply mul_length_le_exactSum
    exact fun a _ => ht ▸ a.fits.1
  rw [Int.zero_mul] at hsum
  exact hsum

lemma ofNat?_eq_some_iff {k : Nat} {n : Fixed t} : Number.ofNat? k = some n ↔ n.val = k := by
  have hofNat : (Number.ofNat? k : Option (Fixed t)) = ofInt? t (k * 1 : Nat) := rfl
  rw [hofNat, Nat.mul_one, ofInt?_eq_some_iff]

lemma val_div_of_pos (a : Fixed t) {n : Fixed t} (hn : 0 < n.val) :
    (a.div n).val = a.val.tdiv n.val :=
  val_wrap_of_fits ((fits_tdiv_iff (by omega)).mpr (by omega))

lemma tdiv_wrap_eq_iff {s : Int} {n : Fixed t} (hn : 0 < n.val) (hs : t.least = 0 → 0 ≤ s) :
    (wrap t s).val.tdiv n.val = s.tdiv n.val ↔ t.Fits s := by
  constructor
  · intro hquotient
    have hdvd : t.modulus ∣ (wrap t s).val - s :=
      Int.dvd_of_emod_eq_zero (Int.emod_eq_emod_iff_emod_sub_eq_zero.mp (emod_val_wrap s))
    -- values that differ by a multiple of the modulus are too far apart for one quotient
    have hnear : ((wrap t s).val - s).natAbs < t.modulus.natAbs := by
      obtain ⟨hlow, hhigh, hnonneg⟩ := tdiv_bounds (wrap t s).val hn
      obtain ⟨hlow', hhigh', hnonneg'⟩ := tdiv_bounds s hn
      have hleast := (wrap t s).fits.1
      have hlength := n.fits.2
      have hgreatest : t.greatest = t.least + t.modulus - 1 := rfl
      rw [hquotient] at hlow hhigh hnonneg
      rcases t.least_eq_or with hzero | ⟨-, hsymm⟩
      · have := hs hzero
        omega
      · omega
    have heq : (wrap t s).val = s :=
      Int.sub_eq_zero.mp (Int.eq_zero_of_dvd_of_natAbs_lt_natAbs hdvd hnear)
    rw [← heq]
    exact (wrap t s).fits
  · intro hfits
    rw [val_wrap_of_fits hfits]

end Fixed

namespace Reduction

variable {t : IntegerType} {as : List (Fixed t)} {m : Fixed t}

open Fixed

lemma exists_min (hne : as ≠ []) : ∃ lo, min as = .ok lo ∧ ∀ a ∈ as, lo.val ≤ a.val :=
  exists_extremum (by simp [less_eq]) (fun _ _ => Bool.false_ne_true) hne

lemma exists_max (hne : as ≠ []) : ∃ hi, max as = .ok hi ∧ ∀ a ∈ as, a.val ≤ hi.val := by
  have hgreater : ∀ a b : Fixed t, Ordered.greater a b ↔ -a.val < -b.val := by simp [greater_eq]
  obtain ⟨hi, hmax, hle⟩ := exists_extremum hgreater (fun _ _ => Bool.false_ne_true) hne
  exact ⟨hi, hmax, fun a ha => Int.neg_le_neg_iff.mp (hle a ha)⟩

structure IsWrappedMean (as : List (Fixed t)) (m : Fixed t) : Prop where
  quotient : m.val = (wrap t (exactSum as)).val.tdiv as.length
  exact_iff : m.val = (exactSum as).tdiv as.length ↔ t.Fits (exactSum as)
  between : t.Fits (exactSum as) →
    ∃ lo hi, min as = .ok lo ∧ max as = .ok hi ∧ lo.val ≤ m.val ∧ m.val ≤ hi.val

lemma exists_mean_iff : (∃ m, mean as = .ok m) ↔ as ≠ [] ∧ t.Fits as.length := by
  simp only [mean_eq_ok_iff, ofNat?_eq_some_iff]
  constructor
  · rintro ⟨m, hne, n, hn, -⟩
    exact ⟨hne, hn ▸ n.fits⟩
  · rintro ⟨hne, hfits⟩
    exact ⟨_, hne, ⟨as.length, hfits⟩, rfl, rfl⟩

lemma isWrappedMean_of_mean (h : mean as = .ok m) : IsWrappedMean as m := by
  obtain ⟨hne, n, hn, rfl⟩ := mean_eq_ok_iff.mp h
  rw [ofNat?_eq_some_iff] at hn
  have hpos : 0 < n.val := by
    have := List.length_pos_iff.mpr hne
    omega
  have hquotient : (Number.div (sum as) n).val = (wrap t (exactSum as)).val.tdiv n.val := by
    rw [← sum_eq_wrap]
    exact val_div_of_pos (sum as) hpos
  have hexact : (Number.div (sum as) n).val = (exactSum as).tdiv n.val ↔ t.Fits (exactSum as) := by
    rw [hquotient]
    exact tdiv_wrap_eq_iff hpos fun ht => exactSum_nonneg ht as
  obtain ⟨lo, hmin, hlo⟩ := exists_min hne
  obtain ⟨hi, hmax, hhi⟩ := exists_max hne
  constructor
  · rw [hquotient, hn]
  · rw [← hn, hexact]
  · intro hfits
    refine ⟨lo, hi, hmin, hmax, ?_, ?_⟩
    · rw [hexact.mpr hfits]
      apply le_tdiv hpos
      rw [hn]
      exact mul_length_le_exactSum hlo
    · rw [hexact.mpr hfits]
      apply tdiv_le hpos
      rw [hn]
      exact exactSum_le_mul_length hhi

end Reduction

end Columnar
