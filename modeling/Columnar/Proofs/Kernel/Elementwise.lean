import Columnar.Kernel.Arithmetic
import Mathlib.Tactic.Lemma

namespace Columnar.Kernel

variable {α β : Type}

lemma fill_eq_zipWith (f : α → α → β) {out : List β} {as bs : List α} (hbs : as.length = bs.length)
    (hout : as.length = out.length) : fill f out as bs = List.zipWith f as bs := by
  induction as generalizing bs out with
  | nil =>
    have : out = [] := List.eq_nil_of_length_eq_zero hout.symm
    subst this
    rfl
  | cons a as ih =>
    cases bs with
    | nil => cases hbs
    | cons b bs =>
      cases out with
      | nil => cases hout
      | cons o out =>
        have htail := ih (Nat.succ.inj hbs) (Nat.succ.inj hout)
        simp only [fill, htail, List.zipWith_cons_cons]

lemma checkOperands_of_eq {lhs rhs out : Nat} (hrhs : lhs = rhs) (hout : lhs = out) :
    checkOperands lhs rhs out = .ok () := by
  subst hrhs hout
  simp [checkOperands, checkLength, bind, Except.bind]

lemma checkOperands_of_rhs_ne {lhs rhs out : Nat} (hrhs : lhs ≠ rhs) :
    checkOperands lhs rhs out = .error (.lengthMismatch "rhs" lhs rhs) := by
  simp [checkOperands, checkLength, bind, Except.bind, hrhs.symm]

lemma checkOperands_of_out_ne {lhs rhs out : Nat} (hrhs : lhs = rhs) (hout : lhs ≠ out) :
    checkOperands lhs rhs out = .error (.lengthMismatch "out" lhs out) := by
  subst hrhs
  simp [checkOperands, checkLength, bind, Except.bind, hout.symm]

variable [Number α] {op : Operation} {as bs out : List α}

lemma combineInto_of_rhs_ne (hbs : as.length ≠ bs.length) :
    combineInto op as bs out = ⟨.error (.lengthMismatch "rhs" as.length bs.length), out⟩ := by
  rw [combineInto, checkOperands_of_rhs_ne hbs]
  rfl

lemma combineInto_of_out_ne (hbs : as.length = bs.length) (hout : as.length ≠ out.length) :
    combineInto op as bs out = ⟨.error (.lengthMismatch "out" as.length out.length), out⟩ := by
  rw [combineInto, checkOperands_of_out_ne hbs hout]
  rfl

lemma combineInto_of_length_eq (hbs : as.length = bs.length) (hout : as.length = out.length) :
    combineInto op as bs out = writeIf (checkDefined op as bs) (List.zipWith op.run as bs) out := by
  rw [combineInto, checkOperands_of_eq hbs hout, fill_eq_zipWith op.run hbs hout]
  rfl

lemma combineInto_eq_of_checkDefined (hbs : as.length = bs.length) (hout : as.length = out.length)
    (hdefined : checkDefined op as bs = .ok ()) :
    combineInto op as bs out = ⟨.ok (), List.zipWith op.run as bs⟩ := by
  rw [combineInto_of_length_eq hbs hout, hdefined]
  rfl

end Columnar.Kernel
