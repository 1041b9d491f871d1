import Columnar.Proofs.Kernel.Forms

/-! The check of the divisors stops at the first position without a quotient. -/

namespace Columnar.Kernel

variable {t : IntegerType} {as bs data : List (Fixed t)} {a a' b b' : Fixed t}
    {n i : Nat} {e : Error} {name : String} {r : Result (List (Fixed t))}

lemma checkedDiv_eq_none_iff :
    Number.checkedDiv a b = none ↔ (NumberType.integer t).NoQuotient a b :=
  Fixed.checkedDiv_eq_none_iff

section Check

structure FirstUndefined (as bs : List (Fixed t)) (i : Nat) (a b : Fixed t) : Prop where
  at_index : (as.zip bs)[i]? = some (a, b)
  undefined : (NumberType.integer t).NoQuotient a b
  defined_before : ∀ p ∈ (as.zip bs).take i, ¬(NumberType.integer t).NoQuotient p.1 p.2

lemma firstUndefined_cons_of_undefined (h : (NumberType.integer t).NoQuotient a b) :
    FirstUndefined (a :: as) (b :: bs) i a' b' ↔ i = 0 ∧ a' = a ∧ b' = b := by
  constructor
  · rintro ⟨hat, -, hbefore⟩
    cases i with
    | zero =>
      obtain ⟨rfl, rfl⟩ := Prod.mk.inj (Option.some.inj hat)
      exact ⟨rfl, rfl, rfl⟩
    | succ i => exact absurd h (hbefore (a, b) List.mem_cons_self)
  · rintro ⟨rfl, rfl, rfl⟩
    exact ⟨rfl, h, fun p hp => absurd hp List.not_mem_nil⟩

lemma firstUndefined_cons_of_defined (h : ¬(NumberType.integer t).NoQuotient a b) :
    FirstUndefined (a :: as) (b :: bs) i a' b' ↔ ∃ j, i = j + 1 ∧ FirstUndefined as bs j a' b' := by
  constructor
  · rintro ⟨hat, hundefined, hbefore⟩
    cases i with
    | zero =>
      obtain ⟨rfl, rfl⟩ := Prod.mk.inj (Option.some.inj hat)
      exact absurd hundefined h
    | succ j => exact ⟨j, rfl, hat, hundefined, fun p hp => hbefore p (List.mem_cons_of_mem _ hp)⟩
  · rintro ⟨j, rfl, hat, hundefined, hbefore⟩
    exact ⟨hat, hundefined, List.forall_mem_cons.mpr ⟨h, hbefore⟩⟩

def blame (i : Nat) (b : Fixed t) : Error :=
  if b.val = 0 then .divideByZero "rhs" i else .overflow "lhs"

lemma checkDivisorsFrom_eq_error_iff :
    checkDivisorsFrom n as bs = .error e ↔
      ∃ i a b, FirstUndefined as bs i a b ∧ e = blame (n + i) b := by
  induction as generalizing n bs with
  | nil => exact ⟨nofun, fun ⟨_, _, _, h, _⟩ => nomatch h.at_index⟩
  | cons a as ih =>
    cases bs with
    | nil => exact ⟨nofun, fun ⟨_, _, _, h, _⟩ => nomatch h.at_index⟩
    | cons b bs =>
      rw [checkDivisorsFrom]
      cases hq : Number.checkedDiv a b with
      | some q =>
        have hdefined : ¬(NumberType.integer t).NoQuotient a b := by
          rw [← checkedDiv_eq_none_iff, hq]
          exact Option.some_ne_none q
        simp only [firstUndefined_cons_of_defined hdefined, ih, Nat.add_assoc, Nat.add_comm 1]
        constructor
        · rintro ⟨j, a', b', h, he⟩
          exact ⟨j + 1, a', b', ⟨j, rfl, h⟩, he⟩
        · rintro ⟨-, a', b', ⟨j, rfl, h⟩, he⟩
          exact ⟨j, a', b', h, he⟩
      | none =>
        have hundefined := checkedDiv_eq_none_iff.mp hq
        simp only [firstUndefined_cons_of_undefined hundefined, Fixed.isZero_iff,
          ← apply_ite Except.error]
        constructor
        · intro he
          exact ⟨0, a, b, ⟨rfl, rfl, rfl⟩, (Except.error.inj he).symm⟩
        · rintro ⟨-, -, -, ⟨rfl, rfl, rfl⟩, rfl⟩
          rfl

end Check

section Elementwise

structure IsDivision (as bs : List (Fixed t)) (r : Result (List (Fixed t))) : Prop where
  ok_iff : (∃ data, r = .ok data) ↔
    ∀ p ∈ as.zip bs, p.2.val ≠ 0 ∧ ¬(p.1.val = t.least ∧ p.2.val = -1)
  untrapped : ∀ data, r = .ok data → List.zipWith Fixed.checkedDiv as bs = data.map some
  quotients : ∀ data, r = .ok data →
    data.map Fixed.val = List.zipWith (fun a b => a.val.tdiv b.val) as bs
  error_iff : ∀ e, r = .error e ↔ ∃ i a b, FirstUndefined as bs i a b ∧ e = blame i b
  zero_first : ∀ operand i, r = .error (.divideByZero operand i) →
    operand = "rhs" ∧ (∃ b, bs[i]? = some b ∧ b.val = 0) ∧ ∀ b ∈ bs.take i, b.val ≠ 0

lemma checkedDiv_eq_some (h : ¬(NumberType.integer t).NoQuotient a b) :
    a.checkedDiv b = some (Operation.divide.wrapped a b) := by
  obtain ⟨q, hq⟩ := Option.ne_none_iff_exists'.mp (checkedDiv_eq_none_iff.not.mpr h)
  have hdiv : Number.div a b = q := Fixed.div_eq_of_checkedDiv hq
  rw [← Operation.run_eq_wrapped, Operation.run, hdiv]
  exact hq

lemma combine_divide_eq_error_iff (h : as.length = bs.length) :
    combine .divide as bs = .error e ↔ ∃ i a b, FirstUndefined as bs i a b ∧ e = blame i b := by
  have hcheck : combine .divide as bs = .error e ↔ checkDivisorsFrom 0 as bs = .error e := by
    rw [combine_of_length_eq h, checkDefined]
    cases checkDivisorsFrom 0 as bs <;> simp [Except.map]
  rw [hcheck, checkDivisorsFrom_eq_error_iff]
  simp only [Nat.zero_add]

lemma zipWith_congr_of_defined {β : Type} {f g : Fixed t → Fixed t → β}
    (h : ∀ p ∈ as.zip bs, f p.1 p.2 = g p.1 p.2) :
    List.zipWith f as bs = List.zipWith g as bs := by
  rw [← List.map_uncurry_zip_eq_zipWith, ← List.map_uncurry_zip_eq_zipWith]
  exact List.map_congr_left h

lemma isDivision_combine (h : as.length = bs.length) :
    IsDivision as bs (combine .divide as bs) := by
  have hok {data} : combine .divide as bs = .ok data ↔
      (∀ p ∈ as.zip bs, ¬(NumberType.integer t).NoQuotient p.1 p.2) ∧
        data = List.zipWith Operation.divide.wrapped as bs := by
    rw [combine_eq_ok_iff]
    simp only [h, Operation.Undefined, true_and]
  constructor
  · simp only [hok, exists_and_left, exists_eq, and_true, NumberType.NoQuotient, not_or]
  · intro data hdata
    obtain ⟨hdefined, rfl⟩ := hok.mp hdata
    rw [List.map_zipWith]
    exact zipWith_congr_of_defined fun p hp => checkedDiv_eq_some (hdefined p hp)
  · intro data hdata
    obtain ⟨hdefined, rfl⟩ := hok.mp hdata
    rw [List.map_zipWith]
    exact zipWith_congr_of_defined fun p hp => Operation.val_wrapped_divide fun hp' =>
      hdefined p hp hp'.2
  · exact fun e => combine_divide_eq_error_iff h
  · intro operand i hzero
    obtain ⟨j, a, b, hfirst, hblame⟩ := (combine_divide_eq_error_iff h).mp hzero
    rw [blame] at hblame
    split at hblame
    · obtain ⟨rfl, rfl⟩ := Error.divideByZero.inj hblame
      obtain ⟨-, hb⟩ := List.getElem?_zip_eq_some.mp hfirst.at_index
      refine ⟨rfl, ⟨b, hb, ‹_›⟩, fun b' hb' => ?_⟩
      rw [← List.map_snd_zip (Nat.le_of_eq h.symm), ← List.map_take] at hb'
      obtain ⟨p, hp, rfl⟩ := List.mem_map.mp hb'
      exact fun hzero => hfirst.defined_before p hp (.inl hzero)
    · cases hblame

end Elementwise

section Scalar

structure IsScalarDivision (name : String) (as : List (Fixed t)) (b : Fixed t)
    (r : Result (List (Fixed t))) : Prop where
  zero_iff : r = .error (.divideByZero "scalar" 0) ↔ b.val = 0
  overflow_iff : r = .error (.overflow name) ↔ b.val = -1 ∧ ∃ a ∈ as, a.val = t.least
  error_cases : ∀ e, r = .error e → e = .divideByZero "scalar" 0 ∨ e = .overflow name
  untrapped : ∀ data, r = .ok data → as.map (Fixed.checkedDiv · b) = data.map some
  quotients : ∀ data, r = .ok data → data.map Fixed.val = as.map (Int.tdiv ·.val b.val)

lemma quotients_eq_error_iff :
    quotients b as = .error e ↔
      e = .overflow "values" ∧ ∃ a ∈ as, Number.checkedDiv a b = none := by
  induction as with
  | nil => simp [quotients]
  | cons a as ih =>
    rw [quotients]
    cases hq : Number.checkedDiv a b with
    | some q => simp [bind_eq_error, ih, hq, pure, Except.pure]
    | none => simp [hq, throw, throwThe, MonadExceptOf.throw, eq_comm]

lemma exists_undefined_iff (hb : b.val ≠ 0) :
    (∃ a ∈ as, Number.checkedDiv a b = none) ↔ b.val = -1 ∧ ∃ a ∈ as, a.val = t.least := by
  simp only [checkedDiv_eq_none_iff, NumberType.NoQuotient, hb, false_or]
  constructor
  · rintro ⟨a, ha, hleast, hb⟩
    exact ⟨hb, a, ha, hleast⟩
  · rintro ⟨hb, a, ha, hleast⟩
    exact ⟨a, ha, hleast, hb⟩

def ScalarFault (name : String) (as : List (Fixed t)) (b : Fixed t) (e : Error) : Prop :=
  b.val = 0 ∧ e = .divideByZero "scalar" 0 ∨
    b.val ≠ 0 ∧ e = .overflow name ∧ ∃ a ∈ as, Number.checkedDiv a b = none

lemma checkDivisor_eq :
    checkDivisor b = if b.val = 0 then .error (.divideByZero "scalar" 0) else .ok () := by
  simp only [checkDivisor, Fixed.isZero_iff]

lemma combineScalar_divide_eq_error_iff :
    combineScalar .divide as b = .error e ↔ ScalarFault "values" as b e := by
  rw [combineScalar, checkDivisor_eq, ScalarFault]
  by_cases hb : b.val = 0
  · simp [hb, bind, Except.bind, eq_comm]
  · simp [hb, bind, Except.bind, quotients_eq_error_iff]

lemma combineScalarInPlace_divide_eq_error_iff :
    (combineScalarInPlace .divide as b).result = .error e ↔ ScalarFault "target" as b e := by
  rw [combineScalarInPlace, Filled.result_writeIf, checkDivisor_eq, ScalarFault]
  by_cases hb : b.val = 0
  · simp [hb, bind, Except.bind, Except.map, eq_comm]
  · have hiff : (as.any fun a => (Number.checkedDiv a b).isNone) ↔
        ∃ a ∈ as, Number.checkedDiv a b = none := by
      simp only [List.any_eq_true, Option.isNone_iff_eq_none]
    rw [← hiff]
    cases as.any fun a => (Number.checkedDiv a b).isNone with
    | true =>
      simp [hb, bind, Except.bind, Except.map, throw, throwThe, MonadExceptOf.throw, eq_comm]
    | false => simp [hb, bind, Except.bind, Except.map, pure, Except.pure]

lemma isScalarDivision_of (hok : ∀ data, r = .ok data ↔ combineScalar .divide as b = .ok data)
    (herror : ∀ e, r = .error e ↔ ScalarFault name as b e) : IsScalarDivision name as b r := by
  have hdefined {data} (h : r = .ok data) :
      (∀ a ∈ as, ¬(NumberType.integer t).NoQuotient a b) ∧
      data = as.map (Operation.divide.wrapped · b) := by
    obtain ⟨-, hdefined, hdata⟩ := combineScalar_eq_ok_iff.mp ((hok data).mp h)
    exact ⟨fun a ha hundefined => hdefined a ha ⟨rfl, hundefined⟩, hdata⟩
  constructor
  · simp [herror, ScalarFault]
  · have hoverflow : ScalarFault name as b (.overflow name) ↔
        b.val ≠ 0 ∧ ∃ a ∈ as, Number.checkedDiv a b = none := by
      simp [ScalarFault]
    rw [herror, hoverflow]
    constructor
    · rintro ⟨hb, hundefined⟩
      exact (exists_undefined_iff hb).mp hundefined
    · intro hleast
      have hb : b.val ≠ 0 := by omega
      exact ⟨hb, (exists_undefined_iff hb).mpr hleast⟩
  · intro e he
    rcases (herror e).mp he with ⟨-, rfl⟩ | ⟨-, rfl, -⟩
    · exact .inl rfl
    · exact .inr rfl
  · intro data hdata
    obtain ⟨hdefined, rfl⟩ := hdefined hdata
    rw [List.map_map]
    exact List.map_congr_left fun a ha => checkedDiv_eq_some (hdefined a ha)
  · intro data hdata
    obtain ⟨hdefined, rfl⟩ := hdefined hdata
    rw [List.map_map]
    exact List.map_congr_left fun a ha => Operation.val_wrapped_divide fun hp => hdefined a ha hp.2

end Scalar

theorem division_exact (t : IntegerType) :
    (∀ as bs : List (Fixed t), as.length = bs.length →
      IsDivision as bs (combine .divide as bs) ∧
      IsDivision as bs (combineInPlace .divide as bs).result ∧
      ∀ out, as.length = out.length → IsDivision as bs (combineInto .divide as bs out).result) ∧
    ∀ (as : List (Fixed t)) (b : Fixed t),
      IsScalarDivision "values" as b (combineScalar .divide as b) ∧
      IsScalarDivision "target" as b (combineScalarInPlace .divide as b).result := by
  constructor
  · intro as bs h
    have hdivision := isDivision_combine h
    refine ⟨hdivision, ?_, fun out hout => ?_⟩
    · rw [result_combineInPlace]
      exact hdivision
    · rw [result_combineInto, if_neg fun hne => hne.2 hout]
      exact hdivision
  · intro as b
    constructor
    · exact isScalarDivision_of (fun _ => Iff.rfl) fun _ => combineScalar_divide_eq_error_iff
    · exact isScalarDivision_of (fun _ => result_combineScalarInPlace_eq_ok_iff)
        fun _ => combineScalarInPlace_divide_eq_error_iff

theorem division_exact_int8 :
    let int (n : Int) : Fixed .int8 := .wrap .int8 n
    combine .divide [int 7, int (-128), int 1] [int (-2), int (-1), int 0] =
      .error (.overflow "lhs") ∧
    (combineInPlace .divide [int 7, int 1, int (-128)] [int (-2), int 0, int (-1)]).result =
      .error (.divideByZero "rhs" 1) ∧
    combineScalar .divide [int 7, int (-128)] (int (-1)) = .error (.overflow "values") := by
  intro int
  obtain ⟨helementwise, hscalar⟩ := division_exact .int8
  refine ⟨?_, ?_, ?_⟩
  · obtain ⟨hcombine, -⟩ := helementwise [int 7, int (-128), int 1] [int (-2), int (-1), int 0] rfl
    refine (hcombine.error_iff _).mpr ⟨1, int (-128), int (-1), ⟨rfl, .inr ⟨rfl, rfl⟩, ?_⟩, rfl⟩
    simp only [NumberType.NoQuotient]
    decide
  · obtain ⟨-, hinPlace, -⟩ :=
      helementwise [int 7, int 1, int (-128)] [int (-2), int 0, int (-1)] rfl
    refine (hinPlace.error_iff _).mpr ⟨1, int 1, int 0, ⟨rfl, .inl rfl, ?_⟩, rfl⟩
    simp only [NumberType.NoQuotient]
    decide
  · obtain ⟨hvalues, -⟩ := hscalar [int 7, int (-128)] (int (-1))
    exact hvalues.overflow_iff.mpr ⟨rfl, int (-128), by simp, rfl⟩

end Columnar.Kernel
