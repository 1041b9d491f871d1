import Columnar.Scalar.Number
import Mathlib.Algebra.Ring.Int.Defs
import Mathlib.Tactic.Lemma

/-! Wrapping takes an integer to the value of its residue class, so the sums of a type form a
commutative monoid. -/

namespace Columnar.Fixed

variable {t : IntegerType}

lemma ofInt?_eq_some_iff {x : Int} {a : Fixed t} : ofInt? t x = some a ↔ a.val = x := by
  rw [ofInt?]
  constructor
  · intro h
    split at h
    · rw [← Option.some.inj h]
    · cases h
  · rintro rfl
    exact dif_pos a.fits

lemma emod_sub_least (a : Fixed t) : (a.val - t.least) % t.modulus = a.val - t.least := by
  obtain ⟨hlo, hhi⟩ := a.fits
  simp only [IntegerType.greatest] at hhi
  exact Int.emod_eq_of_lt (by omega) (by omega)

lemma wrap_val (a : Fixed t) : wrap t a.val = a := by
  apply Fixed.ext
  simp only [wrap, emod_sub_least]
  omega

lemma val_wrap_of_fits {x : Int} (h : t.Fits x) : (wrap t x).val = x :=
  congrArg val (wrap_val ⟨x, h⟩)

lemma emod_val_wrap (x : Int) : (wrap t x).val % t.modulus = x % t.modulus := by
  simp only [wrap, Int.add_comm t.least, Int.emod_add_emod, Int.sub_add_cancel]

lemma wrap_eq_wrap {x y : Int} (h : x % t.modulus = y % t.modulus) : wrap t x = wrap t y := by
  apply Fixed.ext
  simp only [wrap, Int.sub_emod x, Int.sub_emod y, h]

lemma eq_of_emod_eq {a b : Fixed t} (h : a.val % t.modulus = b.val % t.modulus) : a = b := by
  rw [← wrap_val a, ← wrap_val b, wrap_eq_wrap h]

lemma emod_val_add (a b : Fixed t) : (a.add b).val % t.modulus = (a.val + b.val) % t.modulus :=
  emod_val_wrap _

lemma add_assoc (a b c : Fixed t) : (a.add b).add c = a.add (b.add c) := by
  apply eq_of_emod_eq
  rw [emod_val_add, Int.add_emod, emod_val_add, ← Int.add_emod, Int.add_assoc, emod_val_add,
    Int.add_emod _ (b.add c).val, emod_val_add, ← Int.add_emod]

lemma zero_add (a : Fixed t) : zero.add a = a := by
  rw [add, zero, Int.zero_add, wrap_val]

lemma foldl_add (a : Fixed t) (bs : List (Fixed t)) :
    bs.foldl add a = wrap t (a.val + (bs.map val).sum) := by
  induction bs generalizing a with
  | nil => rw [List.map_nil, List.sum_nil, Int.add_zero, wrap_val, List.foldl_nil]
  | cons b bs ih =>
    rw [List.foldl_cons, ih, List.map_cons, List.sum_cons]
    apply wrap_eq_wrap
    rw [Int.add_emod, emod_val_add, ← Int.add_emod, Int.add_assoc]

lemma less_eq (a b : Fixed t) : Ordered.less a b = decide (a.val < b.val) := by
  change (some (compare a.val b.val) == some Ordering.lt) = _
  rw [Bool.eq_iff_iff]
  simp [Int.compare_eq_lt]

lemma greater_eq (a b : Fixed t) : Ordered.greater a b = decide (b.val < a.val) := by
  change (some (compare a.val b.val) == some Ordering.gt) = _
  rw [Bool.eq_iff_iff]
  simp [Int.compare_eq_gt]

end Columnar.Fixed
