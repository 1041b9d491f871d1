import Columnar.Proofs.Decimal.Written
import Columnar.Proofs.Grid.Rank
import Mathlib.Data.Char
import Mathlib.Data.List.Lex

/-! Numbers padded to one width are in the order of their texts. -/

namespace Columnar.Decimal

open Json

variable {ds es as bs : List Char} {c d : Char} {n w : ℕ} {x y : ℤ}

lemma append_lt_append_iff (h : ds.length = es.length) :
    ds ++ as < es ++ bs ↔ ds < es ∨ ds = es ∧ as < bs := by
  induction ds generalizing es with
  | nil =>
    rw [List.length_nil, eq_comm, List.length_eq_zero_iff] at h
    simp [h]
  | cons d ds ih =>
    cases es with
    | nil => cases h
    | cons e es =>
      simp only [List.cons_append, List.cons_lt_cons_iff, ih (Nat.succ.inj h), List.cons.injEq]
      tauto

lemma digitValue_lt_digitValue (hc : c.isDigit) (h : c < d) : digitValue c < digitValue d := by
  simp only [Char.isDigit, Bool.and_eq_true, decide_eq_true_eq] at hc
  have hlow : 48 ≤ c.toNat := hc.1
  have hlt : c.toNat < d.toNat := h
  simp only [digitValue]
  omega

lemma digitValue_lt (hc : c.isDigit) : digitValue c < 10 := by
  simp only [Char.isDigit, Bool.and_eq_true, decide_eq_true_eq] at hc
  have hhigh : c.toNat ≤ 57 := hc.2
  simp only [digitValue]
  omega

lemma value_lt_pow_length (hds : AllDigits ds) : value ds < 10 ^ ds.length := by
  induction ds with
  | nil => decide
  | cons c ds ih =>
    obtain ⟨hc, hds⟩ := List.forall_mem_cons.mp hds
    rw [value_cons, List.length_cons, Nat.pow_succ']
    exact Shape.mul_prod_add_lt (digitValue_lt hc) (ih hds)

lemma value_lt_value (hds : AllDigits ds) (hes : AllDigits es) (hlen : ds.length = es.length)
    (h : ds < es) :
    value ds < value es := by
  induction ds generalizing es with
  | nil =>
    rw [List.length_nil, eq_comm, List.length_eq_zero_iff] at hlen
    exact absurd (hlen ▸ h) (List.lt_irrefl [])
  | cons c ds ih =>
    cases es with
    | nil => cases hlen
    | cons d es =>
      obtain ⟨hc, hds⟩ := List.forall_mem_cons.mp hds
      have hrest : AllDigits es := (List.forall_mem_cons.mp hes).2
      have htail : ds.length = es.length := Nat.succ.inj hlen
      rw [value_cons, value_cons, htail]
      rcases List.cons_lt_cons_iff.mp h with hlt | ⟨rfl, hlt⟩
      · have hstep :=
          Shape.mul_prod_add_lt (digitValue_lt_digitValue hc hlt) (htail ▸ value_lt_pow_length hds)
        omega
      · have hstep := ih hds hrest htail hlt
        omega

lemma padded_of_nonneg (w : ℕ) (hx : 0 ≤ x) :
    padded w x = zeros (w - (digits x.natAbs).length) ++ digits x.natAbs := by
  simp [padded, zeros, hx.not_gt]

lemma padded_of_neg (w : ℕ) (hx : x < 0) :
    padded w x = '-' :: (zeros (w - 1 - (digits x.natAbs).length) ++ digits x.natAbs) := by
  simp [padded, zeros, hx]

lemma allDigits_padded (w : ℕ) (hx : 0 ≤ x) : AllDigits (padded w x) := by
  rw [padded_of_nonneg w hx]
  exact allDigits_append (allDigits_zeros _) (allDigits_digits _)

lemma value_padded (w : ℕ) (hx : 0 ≤ x) : value (padded w x) = x.natAbs := by
  rw [padded_of_nonneg w hx, value_zeros_append, value_digits]

lemma padded_injective (w : ℕ) : Function.Injective (padded w) := by
  intro x y h
  have hminus : '-'.isDigit = false := rfl
  by_cases hx : x < 0
  · by_cases hy : y < 0
    · rw [padded_of_neg w hx, padded_of_neg w hy] at h
      have hvalue := congrArg value (List.cons.inj h).2
      rw [value_zeros_append, value_zeros_append, value_digits, value_digits] at hvalue
      omega
    · have hdigits := allDigits_padded w (not_lt.mp hy)
      rw [← h, padded_of_neg w hx] at hdigits
      exact absurd (hdigits '-' List.mem_cons_self) (by simp [hminus])
  · by_cases hy : y < 0
    · have hdigits := allDigits_padded w (not_lt.mp hx)
      rw [h, padded_of_neg w hy] at hdigits
      exact absurd (hdigits '-' List.mem_cons_self) (by simp [hminus])
    · have hvalue := congrArg value h
      rw [value_padded w (not_lt.mp hx), value_padded w (not_lt.mp hy)] at hvalue
      omega

def FitsWidth (w : ℕ) (x : ℤ) : Prop := 0 ≤ x ∧ x < 10 ^ w

lemma length_digits_le (hw : 0 < w) (h : n < 10 ^ w) : (digits n).length ≤ w := by
  by_cases hn : n = 0
  · rw [hn, digits_zero, List.length_singleton]
    exact hw
  · have hpow : 10 ^ (digits n).length < 10 ^ (w + 1) := by
      rw [Nat.pow_succ']
      exact (pow_length_digits_le hn).trans_lt (by omega)
    exact Nat.le_of_lt_succ ((Nat.pow_lt_pow_iff_right (by decide)).mp hpow)

lemma length_padded (hw : 0 < w) (hx : FitsWidth w x) : (padded w x).length = w := by
  obtain ⟨h0, h1⟩ := hx
  have hlt : x.natAbs < 10 ^ w := by
    zify
    rwa [abs_of_nonneg h0]
  have hle := length_digits_le hw hlt
  rw [padded_of_nonneg w h0, List.length_append, length_zeros]
  omega

lemma padded_lt_padded_iff (hw : 0 < w) (hx : FitsWidth w x) (hy : FitsWidth w y) :
    padded w x < padded w y ↔ x < y := by
  have hlen : (padded w x).length = (padded w y).length := by
    rw [length_padded hw hx, length_padded hw hy]
  have hvx := value_padded w hx.1
  have hvy := value_padded w hy.1
  obtain ⟨hx0, -⟩ := hx
  obtain ⟨hy0, -⟩ := hy
  constructor
  · intro h
    have hlt := value_lt_value (allDigits_padded w hx0) (allDigits_padded w hy0) hlen h
    omega
  · intro h
    rcases lt_trichotomy (padded w x) (padded w y) with hlt | heq | hgt
    · exact hlt
    · exact absurd (padded_injective w heq) h.ne
    · have hlt := value_lt_value (allDigits_padded w hy0) (allDigits_padded w hx0) hlen.symm hgt
      omega

lemma padded_append_lt_iff (hw : 0 < w) (hx : FitsWidth w x) (hy : FitsWidth w y) :
    padded w x ++ as < padded w y ++ bs ↔ x < y ∨ x = y ∧ as < bs := by
  rw [append_lt_append_iff (by rw [length_padded hw hx, length_padded hw hy]),
    padded_lt_padded_iff hw hx hy, (padded_injective w).eq_iff]

end Columnar.Decimal
