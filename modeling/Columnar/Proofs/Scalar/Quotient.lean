import Columnar.Proofs.Scalar.Wrapping
import Columnar.Scalar.Operation

namespace Columnar

lemma IntegerType.least_eq_or (t : IntegerType) :
    t.least = 0 ∨ t.least < 0 ∧ t.greatest = -t.least - 1 := by
  rcases t with ⟨s, w⟩
  cases s <;> cases w <;> decide

namespace Fixed

variable {t : IntegerType} {a b : Fixed t}

lemma fits_tdiv_iff (hb : b.val ≠ 0) :
    t.Fits (a.val.tdiv b.val) ↔ ¬(a.val = t.least ∧ b.val = -1) := by
  obtain ⟨hlo, hhi⟩ := a.fits
  have hb' := b.fits.1
  have ht := t.least_eq_or
  simp only [IntegerType.Fits]
  by_cases hm : b.val = -1
  · rw [hm, Int.tdiv_neg, Int.tdiv_one]
    omega
  by_cases h1 : b.val = 1
  · rw [h1, Int.tdiv_one]
    omega
  have hhalf : (a.val.tdiv b.val).natAbs ≤ a.val.natAbs / 2 := by
    rw [Int.natAbs_tdiv]
    exact Nat.div_le_div_left (by omega) (by decide)
  rcases ht with h0 | hneg
  · have hq := Int.tdiv_nonneg (a := a.val) (b := b.val) (by omega) (by omega)
    omega
  · omega

lemma checkedDiv_eq_none_iff :
    a.checkedDiv b = none ↔ b.val = 0 ∨ a.val = t.least ∧ b.val = -1 := by
  by_cases hb : b.val = 0
  · simp [checkedDiv, hb]
  · simp only [checkedDiv, ofInt?, hb, fits_tdiv_iff hb, if_false, dite_eq_right_iff, reduceCtorEq,
      imp_false, Decidable.not_not, false_or]

lemma isZero_iff : Number.isZero b ↔ b.val = 0 := by
  rw [Number.isZero, beq_iff_eq]
  exact Fixed.ext_iff

lemma div_eq_of_checkedDiv {q : Fixed t} (h : a.checkedDiv b = some q) : a.div b = q := by
  by_cases hb : b.val = 0
  · simp [checkedDiv, hb] at h
  by_cases hfits : t.Fits (a.val.tdiv b.val)
  · simp only [checkedDiv, ofInt?, hb, hfits, if_false, dite_true, Option.some.injEq] at h
    apply Fixed.ext
    rw [div, val_wrap_of_fits hfits, ← h]
  · simp [checkedDiv, ofInt?, hb, hfits] at h

end Fixed

def NumberType.NoQuotient : (t : NumberType) → t.Carrier → t.Carrier → Prop
  | integer t, a, b => b.val = 0 ∨ a.val = t.least ∧ b.val = -1
  | binary32, _, b => b == 0
  | binary64, _, b => b == 0

section Floating

variable {α : Type} [Floating α] {a b : α}

lemma Floating.checkedDiv_eq_none_iff : Number.checkedDiv a b = none ↔ b == Floating.zero := by
  change (if b == Floating.zero then none else some (a / b)) = none ↔ _
  simp

lemma Floating.div_eq_of_checkedDiv {q : α} (h : Number.checkedDiv a b = some q) :
    Number.div a b = q := by
  change (if b == Floating.zero then none else some (a / b)) = some q at h
  split at h
  · cases h
  · exact Option.some.inj h

end Floating

namespace Operation

variable {t : NumberType}

def Undefined (op : Operation) (a b : t.Carrier) : Prop := op = divide ∧ t.NoQuotient a b

lemma result?_eq_none_iff {op : Operation} {a b : t.Carrier} :
    op.result? a b = none ↔ op.Undefined a b := by
  cases op with
  | divide =>
    simp only [result?, Undefined, true_and]
    cases t with
    | integer t => exact Fixed.checkedDiv_eq_none_iff
    | binary32 | binary64 => exact Floating.checkedDiv_eq_none_iff
  | add | subtract | multiply => simp [result?, Undefined]

lemma run_eq_of_result? {op : Operation} {a b c : t.Carrier} (h : op.result? a b = some c) :
    op.run a b = c := by
  cases op with
  | divide =>
    cases t with
    | integer t => exact Fixed.div_eq_of_checkedDiv h
    | binary32 | binary64 => exact Floating.div_eq_of_checkedDiv h
  | add | subtract | multiply => exact Option.some.inj h

end Operation

end Columnar
