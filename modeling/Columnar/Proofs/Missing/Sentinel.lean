import Columnar.Missing.Basic
import Mathlib.Tactic.Lemma

namespace Columnar

inductive Marker.Suits : Marker → NumberType → Prop
  | greatest (t : IntegerType) : Suits .greatest (.integer t)
  | least (t : NumberType) : Suits .least t
  | nan32 : Suits .nan .binary32
  | nan64 : Suits .nan .binary64

namespace Marked

lemma isMissing_missing {m : Marker} {t : NumberType} (h : m.Suits t) :
    (missing : Marked m t.Carrier).isMissing := by
  cases h with
  | greatest t => exact beq_self_eq_true (Fixed.greatest t)
  | least t =>
    cases t with
    | integer t => exact beq_self_eq_true (Fixed.least t)
    | binary32 | binary64 => rfl
  | nan32 | nan64 => rfl

lemma beq_iff {m : Marker} {α : Type} [Number α] {x y : Marked m α} :
    x == y ↔ ¬ x.isMissing ∧ ¬ y.isMissing ∧ x.raw == y.raw := by
  change equalAndPresent x y ↔ _
  simp [equalAndPresent, and_assoc]

instance {m : Marker} {α : Type} [Number α] [PartialEquivBEq α] : PartialEquivBEq (Marked m α) where
  symm h := by
    obtain ⟨hx, hy, hraw⟩ := beq_iff.mp h
    exact beq_iff.mpr ⟨hy, hx, BEq.symm hraw⟩
  trans h h' := by
    obtain ⟨hx, -, hraw⟩ := beq_iff.mp h
    obtain ⟨-, hz, hraw'⟩ := beq_iff.mp h'
    exact beq_iff.mpr ⟨hx, hz, BEq.trans hraw hraw'⟩

end Marked

end Columnar
