import Columnar.Kernel.Sequence
import Columnar.Proofs.Kernel.Elementwise
import Columnar.Proofs.Result
import Columnar.Proofs.Scalar.Quotient

/-! Each form checks everything before it writes, so one that fails has written nothing. -/

namespace Columnar

namespace Operation

def exact : Operation → Int → Int → Int
  | add => (· + ·)
  | subtract => (· - ·)
  | multiply => (· * ·)
  | divide => Int.tdiv

def wrapped {t : IntegerType} (op : Operation) (a b : Fixed t) : Fixed t :=
  .wrap t (op.exact a.val b.val)

variable {t : IntegerType}

lemma run_eq_wrapped (op : Operation) : (op.run : Fixed t → Fixed t → Fixed t) = op.wrapped := by
  cases op <;> rfl

lemma result?_eq_none {op : Operation} {a b : Fixed t} :
    op.result? a b = none ↔ op.Undefined (t := .integer t) a b :=
  result?_eq_none_iff (t := .integer t)

lemma val_wrapped_divide {a b : Fixed t} (h : ¬divide.Undefined (t := .integer t) a b) :
    (divide.wrapped a b).val = a.val.tdiv b.val := by
  simp only [Undefined, NumberType.NoQuotient, true_and, not_or] at h
  exact Fixed.val_wrap_of_fits ((Fixed.fits_tdiv_iff h.1).mpr h.2)

end Operation

namespace Filled

variable {α : Type}

def result (f : Filled α) : Result (List α) := f.outcome.map fun () => f.buffer

def Unwritten (f : Filled α) (before : List α) : Prop :=
  ∀ e, f.outcome = .error e → f.buffer = before

lemma unwritten_writeIf (check : Result Unit) (written before : List α) :
    (Kernel.writeIf check written before).Unwritten before := by
  intro e he
  cases check with
  | ok => cases he
  | error => rfl

lemma length_buffer_writeIf (check : Result Unit) {written before : List α}
    (h : written.length = before.length) :
    (Kernel.writeIf check written before).buffer.length = before.length := by
  cases check with
  | ok => exact h
  | error => rfl

lemma result_writeIf (check : Result Unit) (written before : List α) :
    (Kernel.writeIf check written before).result = check.map fun () => written := by
  cases check <;> rfl

end Filled

class LawfulEditableSequence (γ : Type) {α : outParam Type} [EditableSequence γ α] : Prop where
  toList_put {c : γ} {as : List α} (h : as.length = (Sequence.toList c).length) :
    Sequence.toList (EditableSequence.put c as) = as
  put_toList (c : γ) : EditableSequence.put c (Sequence.toList c) = c

instance {α : Type} : LawfulEditableSequence (List α) where
  toList_put _ := rfl
  put_toList _ := rfl

instance {α : Type} [BEq α] : LawfulEditableSequence (DataVector α) where
  toList_put _ := rfl
  put_toList _ := rfl

instance {α : Type} [BEq α] : LawfulEditableSequence (Series α) where
  toList_put _ := rfl
  put_toList _ := rfl

namespace Kernel

section Number

variable {α : Type} [Number α]

lemma checkDivisorsFrom_eq_ok_iff {n : Nat} {as bs : List α} :
    checkDivisorsFrom n as bs = .ok () ↔ ∀ p ∈ as.zip bs, Number.checkedDiv p.1 p.2 ≠ none := by
  induction as generalizing n bs with
  | nil => simp [checkDivisorsFrom]
  | cons a as ih =>
    cases bs with
    | nil => simp [checkDivisorsFrom]
    | cons b bs =>
      rw [List.zip_cons_cons, List.forall_mem_cons, checkDivisorsFrom]
      cases Number.checkedDiv a b with
      | some q => simp [ih]
      | none =>
        dsimp only
        split <;> simp

lemma checkDivisorsFrom_eq_error {n : Nat} {as bs : List α} {e : Error}
    (h : checkDivisorsFrom n as bs = .error e) :
    (∃ i, e = .divideByZero "rhs" i) ∨ e = .overflow "lhs" := by
  induction as generalizing n bs with
  | nil => cases h
  | cons a as ih =>
    cases bs with
    | nil => cases h
    | cons b bs =>
      rw [checkDivisorsFrom] at h
      split at h
      · exact ih h
      · split at h
        · exact .inl ⟨n, (Except.error.inj h).symm⟩
        · exact .inr (Except.error.inj h).symm

lemma checkDefined_eq_ok_iff {op : Operation} {as bs : List α} :
    checkDefined op as bs = .ok () ↔ ∀ p ∈ as.zip bs, op.result? p.1 p.2 ≠ none := by
  cases op with
  | divide => exact checkDivisorsFrom_eq_ok_iff
  | add | subtract | multiply => simp [checkDefined, Operation.result?]

lemma checkDefined_eq_error {op : Operation} {as bs : List α} {e : Error}
    (h : checkDefined op as bs = .error e) :
    (∃ i, e = .divideByZero "rhs" i) ∨ e = .overflow "lhs" := by
  cases op with
  | divide => exact checkDivisorsFrom_eq_error h
  | add | subtract | multiply => cases h

lemma combine_of_length_ne {op : Operation} {as bs : List α} (h : as.length ≠ bs.length) :
    combine op as bs = .error (.lengthMismatch "rhs" as.length bs.length) := by
  simp only [combine, combineInto_of_rhs_ne h]
  rfl

lemma combine_of_length_eq {op : Operation} {as bs : List α} (h : as.length = bs.length) :
    combine op as bs = (checkDefined op as bs).map fun () => List.zipWith op.run as bs := by
  simp only [combine, combineInto_of_length_eq h List.length_replicate.symm]
  exact Filled.result_writeIf _ _ _

lemma combine_eq_error {op : Operation} {as bs : List α} {e : Error} (h : as.length = bs.length)
    (he : combine op as bs = .error e) :
    (∃ i, e = .divideByZero "rhs" i) ∨ e = .overflow "lhs" := by
  rw [combine_of_length_eq h] at he
  cases hdefined : checkDefined op as bs with
  | ok => simp [hdefined, Except.map] at he
  | error e' =>
    obtain rfl : e' = e := by simpa [hdefined, Except.map] using he
    exact checkDefined_eq_error hdefined

lemma result_combineInto (op : Operation) (as bs out : List α) :
    (combineInto op as bs out).result =
      if as.length = bs.length ∧ as.length ≠ out.length then
        .error (.lengthMismatch "out" as.length out.length)
      else combine op as bs := by
  by_cases hbs : as.length = bs.length
  · by_cases hout : as.length = out.length
    · rw [if_neg fun h => h.2 hout, combineInto_of_length_eq hbs hout, combine_of_length_eq hbs]
      exact Filled.result_writeIf _ _ _
    · rw [if_pos ⟨hbs, hout⟩, combineInto_of_out_ne hbs hout]
      rfl
  · rw [if_neg fun h => hbs h.1, combineInto_of_rhs_ne hbs, combine_of_length_ne hbs]
    rfl

lemma result_combineInPlace (op : Operation) (as bs : List α) :
    (combineInPlace op as bs).result = combine op as bs := by
  rw [combineInPlace, Filled.result_writeIf]
  by_cases h : as.length = bs.length
  · rw [combine_of_length_eq h, fill_eq_zipWith op.run h rfl, checkLength, if_pos h.symm]
    rfl
  · rw [combine_of_length_ne h, checkLength, if_neg (Ne.symm h)]
    rfl

lemma length_fill {β γ : Type} (f : β → β → γ) (out : List γ) (as bs : List β) :
    (fill f out as bs).length = out.length := by
  fun_induction fill f out as bs with
  | case1 o out a as b bs ih => rw [List.length_cons, ih, List.length_cons]
  | case2 => rfl

lemma length_buffer_combineInPlace (op : Operation) (as bs : List α) :
    (combineInPlace op as bs).buffer.length = as.length :=
  Filled.length_buffer_writeIf _ (length_fill op.run as as bs)

lemma unwritten_combineInPlace (op : Operation) (as bs : List α) :
    (combineInPlace op as bs).Unwritten as :=
  Filled.unwritten_writeIf _ _ _

end Number

section Container

variable {α γ δ : Type} [Number α] [Sequence δ α]

lemma map_data_combine [Sequence γ α] (op : Operation) (c : γ) (d : δ) :
    (Sequence.combine op c d).map DataVector.data =
      combine op (Sequence.toList c) (Sequence.toList d) := by
  rw [Sequence.combine]
  cases combine op (Sequence.toList c) (Sequence.toList d) <;> rfl

lemma map_data_combineScalar [Sequence γ α] (op : Operation) (c : γ) (b : α) :
    (Sequence.combineScalar op c b).map DataVector.data =
      combineScalar op (Sequence.toList c) b := by
  rw [Sequence.combineScalar]
  cases combineScalar op (Sequence.toList c) b <;> rfl

variable [EditableSequence γ α] [LawfulEditableSequence γ]

lemma map_toList_combineInPlace (op : Operation) (c : γ) (d : δ) :
    ((EditableSequence.combineInPlace op c d).1.map fun () =>
      Sequence.toList (EditableSequence.combineInPlace op c d).2) =
        combine op (Sequence.toList c) (Sequence.toList d) := by
  rw [← result_combineInPlace, EditableSequence.combineInPlace, LawfulEditableSequence.toList_put
    (length_buffer_combineInPlace op (Sequence.toList c) (Sequence.toList d))]
  rfl

lemma snd_combineInPlace_of_error {op : Operation} {c : γ} {d : δ} {e : Error}
    (h : (EditableSequence.combineInPlace op c d).1 = .error e) :
    (EditableSequence.combineInPlace op c d).2 = c := by
  have hbuffer := unwritten_combineInPlace op (Sequence.toList c) (Sequence.toList d) e h
  exact (congrArg (EditableSequence.put c) hbuffer).trans (LawfulEditableSequence.put_toList c)

end Container

section Integer

variable {t : IntegerType} {op : Operation} {as bs data : List (Fixed t)} {b : Fixed t}

lemma combine_eq_ok_iff :
    combine op as bs = .ok data ↔
      as.length = bs.length ∧ (∀ p ∈ as.zip bs, ¬op.Undefined (t := .integer t) p.1 p.2) ∧
        data = List.zipWith op.wrapped as bs := by
  by_cases h : as.length = bs.length
  · rw [combine_of_length_eq h, map_const_eq_ok, checkDefined_eq_ok_iff, Operation.run_eq_wrapped]
    simp only [ne_eq, Operation.result?_eq_none, h, true_and]
  · simp [combine_of_length_ne h, h]

lemma quotients_eq_ok_iff :
    quotients b as = .ok data ↔
      (∀ a ∈ as, Number.checkedDiv a b ≠ none) ∧ data = as.map fun a => Number.div a b := by
  induction as generalizing data with
  | nil => simp [quotients, eq_comm]
  | cons a as ih =>
    rw [quotients, List.forall_mem_cons, List.map_cons]
    cases hq : Number.checkedDiv a b with
    | none => simp [throw, throwThe, MonadExceptOf.throw]
    | some q =>
      have hdiv : Number.div a b = q := Fixed.div_eq_of_checkedDiv hq
      dsimp only
      rw [bind_eq_ok, hdiv]
      constructor
      · rintro ⟨rest, hrest, hdata⟩
        obtain ⟨hdefined, rfl⟩ := ih.mp hrest
        exact ⟨⟨Option.some_ne_none q, hdefined⟩, (Except.ok.inj hdata).symm⟩
      · rintro ⟨⟨-, hdefined⟩, rfl⟩
        exact ⟨_, ih.mpr ⟨hdefined, rfl⟩, rfl⟩

lemma checkDivisor_eq_ok_iff : checkDivisor b = .ok () ↔ b.val ≠ 0 := by
  rw [checkDivisor]
  split
  · simp [Fixed.isZero_iff.mp ‹_›]
  · simp [Fixed.isZero_iff.not.mp ‹_›]

lemma combineScalar_eq_ok_iff :
    combineScalar op as b = .ok data ↔
      (op = .divide → b.val ≠ 0) ∧ (∀ a ∈ as, ¬op.Undefined (t := .integer t) a b) ∧
        data = as.map fun a => op.wrapped a b := by
  simp only [← Operation.result?_eq_none, ← Operation.run_eq_wrapped]
  cases op with
  | divide =>
    rw [combineScalar, bind_eq_ok]
    constructor
    · rintro ⟨⟨⟩, hb, hdata⟩
      exact ⟨fun _ => checkDivisor_eq_ok_iff.mp hb, quotients_eq_ok_iff.mp hdata⟩
    · rintro ⟨hb, hdata⟩
      exact ⟨(), checkDivisor_eq_ok_iff.mpr (hb rfl), quotients_eq_ok_iff.mpr hdata⟩
  | add | subtract | multiply => simp [combineScalar, Operation.result?, eq_comm]

lemma result_combineScalarInPlace_eq_ok_iff :
    (combineScalarInPlace op as b).result = .ok data ↔ combineScalar op as b = .ok data := by
  rw [combineScalar_eq_ok_iff]
  simp only [← Operation.result?_eq_none, ← Operation.run_eq_wrapped, ← and_assoc]
  cases op with
  | divide =>
    rw [combineScalarInPlace, Filled.result_writeIf, map_const_eq_ok, bind_eq_ok]
    refine and_congr_left' ?_
    simp only [throw_if_eq_ok, List.any_eq_true, Option.isNone_iff_eq_none, not_exists, not_and]
    constructor
    · rintro ⟨⟨⟩, hb, hdefined⟩
      exact ⟨fun _ => checkDivisor_eq_ok_iff.mp hb, hdefined⟩
    · rintro ⟨hb, hdefined⟩
      exact ⟨(), checkDivisor_eq_ok_iff.mpr (hb trivial), hdefined⟩
  | add | subtract | multiply =>
    simp [combineScalarInPlace, Filled.result_writeIf, map_const_eq_ok, Operation.result?]

lemma combine_replicate_eq_ok_iff (hb : op = .divide → b.val ≠ 0) :
    combine op as (List.replicate as.length b) = .ok data ↔ combineScalar op as b = .ok data := by
  have hzip : as.zip (List.replicate as.length b) = as.map fun a => (a, b) := by
    rw [← List.map_const', List.zip, List.zipWith_map_right, List.zipWith_self]
  rw [combine_eq_ok_iff, combineScalar_eq_ok_iff, hzip, List.forall_mem_map, ← List.map_const',
    List.zipWith_map_right, List.zipWith_self, List.length_map]
  exact ⟨fun h => ⟨hb, h.2⟩, fun h => ⟨rfl, h.2⟩⟩

theorem forms_agree (op : Operation) (as bs : List (Fixed t)) :
    (∀ data, combine op as bs = .ok data ↔
      as.length = bs.length ∧ (∀ p ∈ as.zip bs, ¬op.Undefined (t := .integer t) p.1 p.2) ∧
        data = List.zipWith op.wrapped as bs) ∧
    (∀ a b : Fixed t, ¬Operation.divide.Undefined (t := .integer t) a b →
      (Operation.divide.wrapped a b).val = a.val.tdiv b.val) ∧
    (as.length ≠ bs.length →
      combine op as bs = .error (.lengthMismatch "rhs" as.length bs.length)) ∧
    (as.length = bs.length → ∀ e, combine op as bs = .error e →
      (∃ i, e = .divideByZero "rhs" i) ∨ e = .overflow "lhs") ∧
    (∀ out, (combineInto op as bs out).Unwritten out ∧
      (combineInto op as bs out).result =
        if as.length = bs.length ∧ as.length ≠ out.length then
          .error (.lengthMismatch "out" as.length out.length)
        else combine op as bs) ∧
    ((combineInPlace op as bs).Unwritten as ∧ (combineInPlace op as bs).result = combine op as bs) ∧
    (∀ {γ δ : Type} [Sequence γ (Fixed t)] [Sequence δ (Fixed t)] (c : γ) (d : δ),
      Sequence.toList c = as → Sequence.toList d = bs →
        (Sequence.combine op c d).map DataVector.data = combine op as bs) ∧
    (∀ {γ δ : Type} [EditableSequence γ (Fixed t)] [LawfulEditableSequence γ]
      [Sequence δ (Fixed t)] (c : γ) (d : δ), Sequence.toList c = as → Sequence.toList d = bs →
        let edited := EditableSequence.combineInPlace op c d
        (∀ e, edited.1 = .error e → edited.2 = c) ∧
          (edited.1.map fun () => Sequence.toList edited.2) = combine op as bs) ∧
    ∀ b : Fixed t,
      (∀ data, combineScalar op as b = .ok data ↔
        (op = .divide → b.val ≠ 0) ∧ (∀ a ∈ as, ¬op.Undefined (t := .integer t) a b) ∧
          data = as.map fun a => op.wrapped a b) ∧
      ((combineScalarInPlace op as b).Unwritten as ∧ ∀ data,
        (combineScalarInPlace op as b).result = .ok data ↔ combineScalar op as b = .ok data) ∧
      (∀ {γ : Type} [Sequence γ (Fixed t)] (c : γ), Sequence.toList c = as →
        (Sequence.combineScalar op c b).map DataVector.data = combineScalar op as b) ∧
      ((op = .divide → b.val ≠ 0) → ∀ data,
        combine op as (List.replicate as.length b) = .ok data ↔
        combineScalar op as b = .ok data) := by
  refine ⟨fun data => combine_eq_ok_iff, fun a b => Operation.val_wrapped_divide,
    combine_of_length_ne, ?_, ?_, ?_, ?_, ?_,
    fun b => ⟨fun data => combineScalar_eq_ok_iff, ?_, ?_, ?_⟩⟩
  · intro h e he
    exact combine_eq_error h he
  · intro out
    exact ⟨Filled.unwritten_writeIf _ _ _, result_combineInto op as bs out⟩
  · exact ⟨unwritten_combineInPlace op as bs, result_combineInPlace op as bs⟩
  · rintro γ δ _ _ c d rfl rfl
    exact map_data_combine op c d
  · rintro γ δ _ _ _ c d rfl rfl
    exact ⟨fun e => snd_combineInPlace_of_error, map_toList_combineInPlace op c d⟩
  · exact ⟨Filled.unwritten_writeIf _ _ _, fun data => result_combineScalarInPlace_eq_ok_iff⟩
  · rintro γ _ c rfl
    exact map_data_combineScalar op c b
  · exact fun hb data => combine_replicate_eq_ok_iff hb

theorem forms_agree_int8 :
    let int (n : Int) : Fixed .int8 := .wrap .int8 n
    let s : Series (Fixed .int8) := .ofList "s" [int (-128), int 7]
    (EditableSequence.combineInPlace .divide s [int (-1), int 2]).2 = s ∧
    (EditableSequence.combineInPlace .divide s [int 2, int 0]).2 = s ∧
    (Sequence.combine .divide s [int 2, int (-2)]).map DataVector.data = .ok [int (-64), int (-3)] ∧
    combineScalar .divide [int (-128), int 7] (int 3) = .ok [int (-42), int 2] := by
  intro int s
  obtain ⟨hdata, -, -, -, -, -, hmethod, -, hscalar⟩ := forms_agree .divide s.data [int 2, int (-2)]
  obtain ⟨hquotients, -⟩ := hscalar (int 3)
  have hfail {bs : List (Fixed .int8)} (e : Error)
      (he : (EditableSequence.combineInPlace .divide s bs).1 = .error e) :
      (EditableSequence.combineInPlace .divide s bs).2 = s := by
    obtain ⟨-, -, -, -, -, -, -, hedit, -⟩ := forms_agree .divide s.data bs
    exact (hedit s bs rfl rfl).1 e he
  refine ⟨hfail (.overflow "lhs") rfl, hfail (.divideByZero "rhs" 1) rfl, ?_, ?_⟩
  · refine (hmethod s _ rfl rfl).trans ((hdata _).mpr ⟨rfl, ?_, rfl⟩)
    simp only [← Operation.result?_eq_none]
    decide
  · refine (hquotients _).mpr ⟨by decide, ?_, rfl⟩
    simp only [← Operation.result?_eq_none]
    decide

end Integer

end Kernel

end Columnar
