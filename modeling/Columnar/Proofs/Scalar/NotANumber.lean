import Columnar.Proofs.Scalar.Order

namespace Columnar

open Unpacked (unpacked)

namespace Floating

variable {α : Type} [Floating α] [Unpacked α] {a b : α}

lemma beq_iff : a == b ↔
    (¬isNaN a ∧ ¬isNaN b) ∧ Binary.rank (unpacked a) = Binary.rank (unpacked b) := by
  rw [Unpacked.beq_eq, Binary.beq_eq, Binary.compare_eq, Unpacked.isNaN_eq,
    Unpacked.isNaN_eq, ← not_or, ← Bool.or_eq_true]
  split
  case isTrue h => simp [h]
  case isFalse h => simp [h, compare_eq_iff_eq]

lemma beq_self_iff : a == a ↔ ¬isNaN a := by
  rw [beq_iff, and_self, and_iff_left rfl]

lemma beq_eq_false_of_isNaN (h : isNaN a ∨ isNaN b) : (a == b) = false := by
  rw [← Bool.not_eq_true, beq_iff, ← not_or]
  exact fun hnumbers => hnumbers.1 h

lemma partialEquivBEq : PartialEquivBEq α where
  symm h := by
    obtain ⟨hnumbers, hrank⟩ := beq_iff.mp h
    exact beq_iff.mpr ⟨hnumbers.symm, hrank.symm⟩
  trans h h' := by
    obtain ⟨⟨ha, -⟩, hrank⟩ := beq_iff.mp h
    obtain ⟨⟨-, hc⟩, hrank'⟩ := beq_iff.mp h'
    exact beq_iff.mpr ⟨⟨ha, hc⟩, hrank.trans hrank'⟩

end Floating

variable {t : NumberType} {a b : t.Carrier}

lemma order?_of_isNaN (h : Number.isNaN a ∨ Number.isNaN b) : Ordered.order? a b = none := by
  rw [NumberType.order?_eq, if_pos (by simpa using h)]

lemma less_of_isNaN (h : Number.isNaN a ∨ Number.isNaN b) : Ordered.less a b = false := by
  rw [Ordered.less, order?_of_isNaN h]
  rfl

lemma greater_of_isNaN (h : Number.isNaN a ∨ Number.isNaN b) : Ordered.greater a b = false := by
  rw [Ordered.greater, order?_of_isNaN h]
  rfl

lemma beq_eq_false_of_isNaN (h : Number.isNaN a ∨ Number.isNaN b) : (a == b) = false := by
  cases t with
  | integer t => rcases h with h | h <;> cases h
  | binary32 | binary64 => exact Floating.beq_eq_false_of_isNaN h

lemma beq_self_iff : a == a ↔ ¬Number.isNaN a := by
  cases t with
  | integer t =>
    have hself : a == a := beq_self_eq_true a
    exact ⟨fun _ => Bool.false_ne_true, fun _ => hself⟩
  | binary32 | binary64 => exact Floating.beq_self_iff

instance {t : NumberType} : PartialEquivBEq t.Carrier :=
  match t with
  | .integer t => inferInstanceAs (PartialEquivBEq (Fixed t))
  | .binary32 => Floating.partialEquivBEq
  | .binary64 => Floating.partialEquivBEq

end Columnar
