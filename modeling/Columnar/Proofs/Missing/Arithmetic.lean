import Columnar.Kernel.Present
import Columnar.Proofs.Kernel.Elementwise
import Columnar.Proofs.Missing.Sentinel
import Columnar.Proofs.Scalar.Quotient

/-! Bulk arithmetic computes with the sentinels of missing operands as if they were numbers; the
pass that marks the missing places afterwards puts that right. -/

namespace Columnar.Marked

section Number

variable {m : Marker} {α : Type} [Number α] {xs ys out : List (Marked m α)}

def rawResult (m : Marker) (op : Operation) (a b : α) : α := (op.result? a b).getD (sentinel m α)

lemma combine_eq (op : Operation) (x y : Marked m α) :
    combine op x y =
      if x.isMissing || y.isMissing then missing else ⟨rawResult m op x.raw y.raw⟩ := by
  simp only [combine, binary, rawResult]
  cases op.result? x.raw y.raw with
  | none => rfl
  | some a => rfl

lemma rawPass_eq (op : Operation) (hys : xs.length = ys.length) (hout : xs.length = out.length) :
    rawPass op xs ys out =
      ofRawValues m (List.zipWith (rawResult m op) (rawValues xs) (rawValues ys)) := by
  have hys' : (rawValues xs).length = (rawValues ys).length := by simpa [rawValues] using hys
  have hout' : (rawValues xs).length = (rawValues out).length := by simpa [rawValues] using hout
  cases op with
  | divide =>
    simp only [rawPass]
    rw [Kernel.fill_eq_zipWith _ hys' hout']
    rfl
  | add | subtract | multiply =>
    simp only [rawPass]
    rw [Kernel.combineInto_eq_of_checkDefined hys' hout' rfl]
    rfl

lemma mask_zipWith (op : Operation) (xs ys : List (Marked m α)) :
    mask (ofRawValues m (List.zipWith (rawResult m op) (rawValues xs) (rawValues ys))) xs ys =
      List.zipWith (combine op) xs ys := by
  induction xs generalizing ys with
  | nil => rfl
  | cons x xs ih =>
    cases ys with
    | nil => rfl
    | cons y ys =>
      have htail := ih ys
      simp only [rawValues, ofRawValues] at htail
      simp only [rawValues, ofRawValues, List.map_cons, List.zipWith_cons_cons, mask, htail,
        combine_eq]

lemma combineInto_of_rhs_ne (op : Operation) (hys : xs.length ≠ ys.length) :
    combineInto op xs ys out = ⟨.error (.lengthMismatch "rhs" xs.length ys.length), out⟩ := by
  simp only [combineInto, Kernel.checkOperands_of_rhs_ne hys, Kernel.writeIf]

lemma combineInto_of_out_ne (op : Operation) (hys : xs.length = ys.length)
    (hout : xs.length ≠ out.length) :
    combineInto op xs ys out = ⟨.error (.lengthMismatch "out" xs.length out.length), out⟩ := by
  simp only [combineInto, Kernel.checkOperands_of_out_ne hys hout, Kernel.writeIf]

lemma combineInto_of_eq (op : Operation) (hys : xs.length = ys.length)
    (hout : xs.length = out.length) :
    combineInto op xs ys out = ⟨.ok (), List.zipWith (combine op) xs ys⟩ := by
  simp only [combineInto, Kernel.checkOperands_of_eq hys hout, Kernel.writeIf,
    rawPass_eq op hys hout, mask_zipWith]

end Number

variable {m : Marker} {t : NumberType}

lemma isMissing_combine_iff (hm : m.Suits t) (op : Operation) (x y : Marked m t.Carrier) :
    (combine op x y).isMissing ↔
      x.isMissing ∨ y.isMissing ∨ op.Undefined x.raw y.raw ∨ isSentinel m (op.run x.raw y.raw) := by
  have hmissing := isMissing_missing hm
  rw [combine_eq]
  by_cases hx : x.isMissing
  · simp [hx, hmissing]
  by_cases hy : y.isMissing
  · simp [hy, hmissing]
  rw [if_neg (by simp [hx, hy])]
  change isSentinel m (rawResult m op x.raw y.raw) ↔ _
  -- both are present, and the result is missing where it is undefined or where it is the sentinel
  cases hop : op.result? x.raw y.raw with
  | none =>
    have hundefined := Operation.result?_eq_none_iff.mp hop
    simp only [rawResult, hop, Option.getD_none, hundefined, true_or, or_true, iff_true]
    exact hmissing
  | some a =>
    have hdefined : ¬op.Undefined x.raw y.raw := by
      rw [← Operation.result?_eq_none_iff, hop]
      exact Option.some_ne_none a
    simp only [rawResult, hop, Option.getD_some, hx, hy, hdefined, Operation.run_eq_of_result? hop,
      Bool.false_eq_true, false_or]

theorem combineInto_elementwise (hm : m.Suits t) (op : Operation)
    (xs ys out : List (Marked m t.Carrier)) :
    (xs.length ≠ ys.length →
      combineInto op xs ys out = ⟨.error (.lengthMismatch "rhs" xs.length ys.length), out⟩) ∧
    (xs.length = ys.length → xs.length ≠ out.length →
      combineInto op xs ys out = ⟨.error (.lengthMismatch "out" xs.length out.length), out⟩) ∧
    (xs.length = ys.length → xs.length = out.length →
      combineInto op xs ys out = ⟨.ok (), List.zipWith (combine op) xs ys⟩ ∧
      ∀ (i : Nat) (x y : Marked m t.Carrier), xs[i]? = some x → ys[i]? = some y →
        ∃ z, (combineInto op xs ys out).buffer[i]? = some z ∧ z = combine op x y ∧
          (z.isMissing ↔ x.isMissing ∨ y.isMissing ∨ op.Undefined x.raw y.raw ∨
            isSentinel m (op.run x.raw y.raw))) := by
  refine ⟨combineInto_of_rhs_ne op, combineInto_of_out_ne op, fun hys hout => ?_⟩
  have heq := combineInto_of_eq op hys hout
  refine ⟨heq, fun i x y hx hy => ⟨combine op x y, ?_, rfl, isMissing_combine_iff hm op x y⟩⟩
  simp [heq, List.getElem?_zipWith, hx, hy]

theorem combineInto_elementwise_int8 :
    let int (n : Int) : Marked .greatest (NumberType.integer .int8).Carrier := ⟨.wrap .int8 n⟩
    combineInto .divide [int (-128), int 7, int 127, int 100] [int (-1), int 0, int 2, int 1]
        [int 1, int 2, int 3, int 4] = ⟨.ok (), [missing, missing, missing, int 100]⟩ ∧
    combineInto .add [int 127, int 64, int 100] [int 127, int 63, int 100] [int 1, int 2, int 3] =
      ⟨.ok (), [missing, missing, int (-56)]⟩ := by
  intro int
  have hm := Marker.Suits.greatest .int8
  have hdivide := combineInto_elementwise hm .divide [int (-128), int 7, int 127, int 100]
    [int (-1), int 0, int 2, int 1] [int 1, int 2, int 3, int 4]
  have hadd := combineInto_elementwise hm .add [int 127, int 64, int 100] [int 127, int 63, int 100]
    [int 1, int 2, int 3]
  constructor
  · exact (hdivide.2.2 rfl rfl).1.trans rfl
  · exact (hadd.2.2 rfl rfl).1.trans rfl

end Columnar.Marked
