import Columnar.Proofs.Kernel.Mean
import Mathlib.Data.Int.ModEq
import Mathlib.Data.List.Infix

/-! A sum that wraps around is exact wherever the whole sum is of the type, whatever the sums on the
way. A sum that is checked is refused as soon as one sum on the way is not of the type. -/

namespace Columnar

lemma IntegerType.modulus_eq (t : IntegerType) : t.modulus = 2 ^ t.width.bits :=
  Int.natCast_pow 2 t.width.bits

namespace Fixed

variable {t u : IntegerType} {as : List (Fixed t)}

lemma exactSum_nil : exactSum ([] : List (Fixed t)) = 0 := rfl

lemma exactSum_cons (a : Fixed t) (as : List (Fixed t)) :
    exactSum (a :: as) = a.val + exactSum as :=
  List.sum_cons

lemma truncate?_ofInt (x : Int) : (Exact.ofInt x).truncate? = some x := by
  have hmagnitude : x.natAbs * Nat.pow 2 0 = x.natAbs := Nat.mul_one x.natAbs
  simp only [Exact.ofInt, Exact.truncate?, Int.le_refl, if_true, Int.toNat_zero, hmagnitude,
    decide_eq_true_eq, Option.some.injEq]
  split <;> omega

lemma cast?_eq (a : Fixed t) : (Number.cast? a : Option (Fixed u)) = ofInt? u a.val := by
  change (Exact.ofInt a.val).truncate?.bind (ofInt? u) = _
  rw [truncate?_ofInt, Option.bind_some]

lemma cast?_self (a : Fixed t) : (Number.cast? a : Option (Fixed t)) = some a := by
  rw [cast?_eq, ofInt?_eq_some_iff]

def SumsFitFrom (u : IntegerType) (start : Int) (as : List (Fixed t)) : Prop :=
  ∀ bs, bs <+: as → u.Fits (start + exactSum bs)

def PrefixSumsFit (u : IntegerType) (as : List (Fixed t)) : Prop :=
  ∀ bs, bs <+: as → u.Fits (exactSum bs)

lemma sumsFitFrom_zero : SumsFitFrom u 0 as ↔ PrefixSumsFit u as := by
  simp only [SumsFitFrom, PrefixSumsFit, Int.zero_add]

lemma sumsFitFrom_nil {start : Int} : SumsFitFrom u start ([] : List (Fixed t)) ↔ u.Fits start := by
  simp only [SumsFitFrom, List.prefix_nil, forall_eq, exactSum_nil, Int.add_zero]

lemma sumsFitFrom_cons {start : Int} {a : Fixed t} :
    SumsFitFrom u start (a :: as) ↔ u.Fits start ∧ SumsFitFrom u (start + a.val) as := by
  simp only [SumsFitFrom, List.prefix_cons_iff]
  constructor
  · intro h
    constructor
    · have hempty := h [] (.inl rfl)
      rwa [exactSum_nil, Int.add_zero] at hempty
    · intro bs hbs
      have hlonger := h (a :: bs) (.inr ⟨bs, rfl, hbs⟩)
      rwa [exactSum_cons, ← Int.add_assoc] at hlonger
  · rintro ⟨hstart, hrest⟩ bs (rfl | ⟨cs, rfl, hcs⟩)
    · rwa [exactSum_nil, Int.add_zero]
    · rw [exactSum_cons, ← Int.add_assoc]
      exact hrest cs hcs

lemma fits_exactSum (h : PrefixSumsFit u as) : u.Fits (exactSum as) := h as (List.prefix_refl as)

end Fixed

namespace Reduction

open Fixed

variable {t u : IntegerType} {as : List (Fixed t)}

def addNext (u : IntegerType) (acc : Fixed u) (a : Fixed t) : Result (Fixed u) :=
  orElse tooLarge ((Number.cast? a).bind (Number.checkedAdd acc))

lemma addNext_eq_ok_iff {acc s : Fixed u} {a : Fixed t} :
    addNext u acc a = .ok s ↔ u.Fits a.val ∧ s.val = acc.val + a.val := by
  rw [addNext, orElse_eq_ok_iff, cast?_eq, Option.bind_eq_some_iff]
  constructor
  · rintro ⟨b, hb, hs⟩
    rw [ofInt?_eq_some_iff] at hb
    have hsum : s.val = acc.val + b.val := ofInt?_eq_some_iff.mp hs
    rw [hb] at hsum
    exact ⟨hb ▸ b.fits, hsum⟩
  · rintro ⟨hfits, hs⟩
    refine ⟨⟨a.val, hfits⟩, ofInt?_eq_some_iff.mpr rfl, ?_⟩
    exact ofInt?_eq_some_iff.mpr hs

lemma orElse_eq_error {γ : Type} {e cause : Error} {o : Option γ} (h : orElse e o = .error cause) :
    cause = e := by
  cases o with
  | none => exact (Except.error.inj h).symm
  | some c => cases h

lemma foldlM_addNext_eq_ok_iff {acc s : Fixed u} :
    as.foldlM (addNext u) acc = .ok s ↔
      (∀ a ∈ as, u.Fits a.val) ∧ SumsFitFrom u acc.val as ∧ s.val = acc.val + exactSum as := by
  -- the sum so far is always of the type, so the fold stops exactly at the first sum that is not
  induction as generalizing acc with
  | nil =>
    simp only [List.foldlM_nil, List.not_mem_nil, false_implies, implies_true, true_and,
      sumsFitFrom_nil, acc.fits, exactSum_nil, Int.add_zero]
    constructor
    · intro h
      rw [Except.ok.inj h]
    · intro h
      rw [Fixed.ext h]
      rfl
  | cons a as ih =>
    simp only [List.foldlM_cons, bind_eq_ok, addNext_eq_ok_iff, ih, List.forall_mem_cons,
      sumsFitFrom_cons, acc.fits, true_and, exactSum_cons]
    constructor
    · rintro ⟨next, ⟨ha, hnext⟩, has, hsums, hs⟩
      rw [hnext] at hsums hs
      exact ⟨⟨ha, has⟩, hsums, by rw [hs, Int.add_assoc]⟩
    · rintro ⟨⟨ha, has⟩, hsums, hs⟩
      have hnext : u.Fits (acc.val + a.val) := by
        have hhead := hsums [] List.nil_prefix
        rwa [exactSum_nil, Int.add_zero] at hhead
      exact ⟨⟨_, hnext⟩, ⟨ha, rfl⟩, has, hsums, by rw [hs, Int.add_assoc]⟩

lemma foldlM_addNext_error {acc : Fixed u} {e : Error} (h : as.foldlM (addNext u) acc = .error e) :
    e = tooLarge := by
  induction as generalizing acc with
  | nil => cases h
  | cons a as ih =>
    rw [List.foldlM_cons, bind_eq_error] at h
    rcases h with hstep | ⟨next, -, hrest⟩
    · exact orElse_eq_error hstep
    · exact ih hrest

lemma sumAs_eq_ok_iff {s : Fixed u} : sumAs (Fixed u) as = .ok s ↔
    (∀ a ∈ as, u.Fits a.val) ∧ PrefixSumsFit u as ∧ s.val = exactSum as := by
  have hfold : sumAs (Fixed u) as = as.foldlM (addNext u) zero := rfl
  have hzero : (zero : Fixed u).val = 0 := rfl
  rw [hfold, foldlM_addNext_eq_ok_iff, hzero, sumsFitFrom_zero, Int.zero_add]

lemma checkedSum_eq_sumAs (as : List (Fixed t)) : checkedSum as = sumAs (Fixed t) as := by
  simp only [checkedSum, sumAs, cast?_self, Option.bind_some]

/-- A sum that is exact if it is there at all, and there if and only if `fits` holds. -/
structure IsCheckedSum (fits : Prop) (exact : Int) (r : Result (Fixed u)) : Prop where
  exists_iff : (∃ s, r = .ok s) ↔ fits
  exact_of_ok : ∀ s, r = .ok s → s.val = exact
  error_iff : r = .error (.overflow "values") ↔ ¬ fits

lemma isCheckedSum_sumAs (u : IntegerType) (as : List (Fixed t)) :
    IsCheckedSum ((∀ a ∈ as, u.Fits a.val) ∧ PrefixSumsFit u as) (exactSum as)
      (sumAs (Fixed u) as) := by
  have hexists : (∃ s, sumAs (Fixed u) as = .ok s) ↔
      (∀ a ∈ as, u.Fits a.val) ∧ PrefixSumsFit u as := by
    constructor
    · rintro ⟨s, hs⟩
      obtain ⟨has, hsums, -⟩ := sumAs_eq_ok_iff.mp hs
      exact ⟨has, hsums⟩
    · rintro ⟨has, hsums⟩
      exact ⟨⟨exactSum as, fits_exactSum hsums⟩, sumAs_eq_ok_iff.mpr ⟨has, hsums, rfl⟩⟩
  refine ⟨hexists, ?_, ?_⟩
  · intro s hs
    exact (sumAs_eq_ok_iff.mp hs).2.2
  · rw [← hexists]
    cases hsum : sumAs (Fixed u) as with
    | ok s => simp
    | error e => simp [foldlM_addNext_error hsum, tooLarge]

lemma isCheckedSum_checkedSum (as : List (Fixed t)) :
    IsCheckedSum (PrefixSumsFit t as) (exactSum as) (checkedSum as) := by
  have h := isCheckedSum_sumAs t as
  have hfits : ∀ a ∈ as, t.Fits a.val := fun a _ => a.fits
  simp only [eq_true hfits, true_and] at h
  rwa [checkedSum_eq_sumAs]

lemma eq_sum_iff {s : Fixed t} : s = sum as ↔ s.val ≡ exactSum as [ZMOD 2 ^ t.width.bits] := by
  rw [sum_eq_wrap, Int.ModEq, ← t.modulus_eq, ← emod_val_wrap (exactSum as)]
  constructor
  · rintro rfl
    rfl
  · exact eq_of_emod_eq

lemma val_sum_of_fits (h : t.Fits (exactSum as)) : (sum as).val = exactSum as := by
  rw [sum_eq_wrap, val_wrap_of_fits h]

theorem sums_exact (as : List (Fixed t)) :
    (∀ s, s = sum as ↔ s.val ≡ exactSum as [ZMOD 2 ^ t.width.bits]) ∧
    (t.Fits (exactSum as) → (sum as).val = exactSum as) ∧
    IsCheckedSum (PrefixSumsFit t as) (exactSum as) (checkedSum as) ∧
    (∀ s, checkedSum as = .ok s → s = sum as) ∧
    ∀ u : IntegerType,
      IsCheckedSum ((∀ a ∈ as, u.Fits a.val) ∧ PrefixSumsFit u as) (exactSum as)
        (sumAs (Fixed u) as) := by
  have hchecked := isCheckedSum_checkedSum as
  refine ⟨fun s => eq_sum_iff, val_sum_of_fits, hchecked, ?_, fun u => isCheckedSum_sumAs u as⟩
  intro s hs
  apply Fixed.ext
  rw [hchecked.exact_of_ok s hs, val_sum_of_fits (fits_exactSum (hchecked.exists_iff.mp ⟨s, hs⟩))]

example : (sum [⟨100, by decide⟩, ⟨100, by decide⟩, (⟨-100, by decide⟩ : Fixed .int8)]).val = 100 ∧
    checkedSum [⟨100, by decide⟩, ⟨100, by decide⟩, (⟨-100, by decide⟩ : Fixed .int8)] =
      .error (.overflow "values") := by
  decide

end Reduction

end Columnar
