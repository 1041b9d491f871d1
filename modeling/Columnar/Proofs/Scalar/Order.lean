import Columnar.Scalar.Number
import Mathlib.Algebra.Order.Ring.Int
import Mathlib.Data.Nat.Cast.Order.Basic
import Mathlib.Data.Prod.Lex
import Mathlib.Tactic.Lemma

/-! All numbers but NaN have a rank in a linear order, and they compare as their ranks do. -/

namespace Columnar

open Float.Model Float.Model.UnpackedFloat

def Binary.rank : UnpackedFloat → ℤ ×ₗ ℤ ×ₗ ℤ
  | .infinity .negative => toLex (-2, toLex (0, 0))
  | .finite .negative m e _ => toLex (-1, toLex (-e, -m))
  | .zero _ | .notANumber => toLex (0, toLex (0, 0))
  | .finite .positive m e _ => toLex (1, toLex (e, m))
  | .infinity .positive => toLex (2, toLex (0, 0))

namespace Binary

lemma lt_eq (u v : UnpackedFloat) : u.lt v = (u.compare v == some .lt) := rfl

lemma beq_eq (u v : UnpackedFloat) : u.beq v = (u.compare v == some .eq) := rfl

lemma compare_toLex {α β : Type} [LinearOrder α] [LinearOrder β] (a c : α) (b d : β) :
    compare (toLex (a, b)) (toLex (c, d)) = (compare a c).then (compare b d) := by
  rw [Prod.Lex.compare_def]
  rfl

lemma compare_natCast (m n : ℕ) : compare (m : ℤ) n = compare m n := by
  rw [← cmp_eq_compare, ← cmp_eq_compare]
  exact Nat.strictMono_cast.cmp_map_eq m n

lemma compare_neg_neg (x y : ℤ) : compare (-x) (-y) = (compare x y).swap := by
  have hneg : StrictAnti fun x : ℤ => -x := fun x y h => Int.neg_lt_neg h
  rw [Int.compare_swap, ← cmp_eq_compare, ← cmp_eq_compare]
  exact hneg.cmp_map_eq x y

lemma compare_eq (u v : UnpackedFloat) :
    u.compare v = if u.isNaN || v.isNaN then none else some (compare (rank u) (rank v)) := by
  rcases u with ⟨_ | _⟩ | _ | _ | ⟨_ | _, m, e, hm⟩ <;>
    rcases v with ⟨_ | _⟩ | _ | _ | ⟨_ | _, n, f, hn⟩
  case finite.negative.finite.negative =>
    apply congrArg some
    change _ = compare (toLex ((-1 : ℤ), toLex (-e, -(m : ℤ)))) (toLex (-1, toLex (-f, -(n : ℤ))))
    simp only [compare_toLex, compare_neg_neg, compare_natCast, Ordering.swap_then]
    rfl
  case finite.positive.finite.positive =>
    apply congrArg some
    change _ = compare (toLex ((1 : ℤ), toLex (e, (m : ℤ)))) (toLex (1, toLex (f, (n : ℤ))))
    simp only [compare_toLex, compare_natCast]
    rfl
  -- on different sides the side alone decides
  all_goals rfl

lemma compare_swap (u v : UnpackedFloat) : v.compare u = (u.compare v).map Ordering.swap := by
  rw [compare_eq, compare_eq, Bool.or_comm]
  split
  · rfl
  · exact congrArg some Std.OrientedOrd.eq_swap

end Binary

open Binary

class Unpacked (α : Type) [Floating α] where
  unpacked : α → UnpackedFloat
  less_eq (a b : α) : Floating.less a b = (unpacked a).lt (unpacked b)
  beq_eq (a b : α) : (a == b) = (unpacked a).beq (unpacked b)
  isNaN_eq (a : α) : Floating.isNaN a = (unpacked a).isNaN

lemma decide_decide (b : Bool) : decide (decide (b = true) = true) = b := by
  rw [Bool.decide_eq_true, Bool.decide_eq_true]

instance : Unpacked Float where
  unpacked a := a.toModel.unpack
  less_eq _ _ := decide_decide _
  beq_eq _ _ := rfl
  isNaN_eq _ := rfl

instance : Unpacked Float32 where
  unpacked a := a.toModel.unpack
  less_eq _ _ := decide_decide _
  beq_eq _ _ := rfl
  isNaN_eq _ := rfl

open Unpacked (unpacked)

namespace Floating

variable {α : Type} [Floating α] [Unpacked α]

lemma order?_eq_compare (a b : α) : order? a b = (unpacked a).compare (unpacked b) := by
  have hba : less b a = ((unpacked a).compare (unpacked b) == some .gt) := by
    rw [Unpacked.less_eq, lt_eq, compare_swap (unpacked a)]
    cases (unpacked a).compare (unpacked b) with
    | none => rfl
    | some o => cases o <;> rfl
  rw [order?, hba, Unpacked.less_eq, Unpacked.beq_eq, lt_eq, Binary.beq_eq]
  cases (unpacked a).compare (unpacked b) with
  | none => rfl
  | some o => cases o <;> rfl

lemma order?_eq (a b : α) : order? a b =
    if isNaN a || isNaN b then none
    else some (compare (rank (unpacked a)) (rank (unpacked b))) := by
  rw [order?_eq_compare, compare_eq, Unpacked.isNaN_eq, Unpacked.isNaN_eq]

end Floating

namespace NumberType

def rank : (t : NumberType) → t.Carrier → ℤ ×ₗ ℤ ×ₗ ℤ
  | .integer _, a => toLex (a.val, toLex (0, 0))
  | .binary32, a => Binary.rank (unpacked a)
  | .binary64, a => Binary.rank (unpacked a)

variable {t : NumberType} {a b : t.Carrier}

lemma order?_eq (a b : t.Carrier) : Ordered.order? a b =
    if Number.isNaN a || Number.isNaN b then none else some (compare (t.rank a) (t.rank b)) := by
  cases t with
  | integer t =>
    change some (compare a.val b.val) = some (compare (toLex (a.val, _)) (toLex (b.val, _)))
    rw [compare_toLex, compare_eq_iff_eq.mpr rfl, Ordering.then_eq]
  | binary32 | binary64 => exact Floating.order?_eq a b

lemma less_iff (ha : ¬Number.isNaN a) (hb : ¬Number.isNaN b) :
    Ordered.less a b ↔ t.rank a < t.rank b := by
  rw [Ordered.less, order?_eq, if_neg (by simp [ha, hb]), ← compare_lt_iff_lt, beq_iff_eq,
    Option.some_inj]

lemma greater_iff (ha : ¬Number.isNaN a) (hb : ¬Number.isNaN b) :
    Ordered.greater a b ↔ t.rank b < t.rank a := by
  rw [Ordered.greater, order?_eq, if_neg (by simp [ha, hb]), ← compare_gt_iff_gt, beq_iff_eq,
    Option.some_inj]

end NumberType

end Columnar
