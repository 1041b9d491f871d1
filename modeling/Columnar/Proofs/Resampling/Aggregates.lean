import Columnar.Proofs.Kernel.Mean
import Columnar.Proofs.Scalar.Wrapping
import Columnar.Resampling.Aggregation
import Mathlib.Data.List.Forall2

/-! Except for the mean, the aggregate of integers is a fold with an associative operation, so
aggregates of adjacent lists can be aggregated again. -/

namespace Columnar.Aggregation

section Number

variable {α : Type} [Number α]

lemma exists_run_iff {m : Aggregation} {as : List α} (h : as ≠ []) :
    (∃ a, m.run as = .ok a) ↔ (m = mean → ∃ n : α, Number.ofNat? as.length = some n) := by
  obtain ⟨a, as, rfl⟩ := List.exists_cons_of_ne_nil h
  cases m with
  | mean =>
    have hrun : run mean (a :: as) = Reduction.mean (a :: as) := rfl
    simp [hrun, Reduction.mean_eq_ok_iff]
  | last =>
    have hlast := List.getLast?_eq_getLast_of_ne_nil h
    simp [run, hlast, Reduction.orElse]
  | sum => simp [run]
  | min => simp [run, Reduction.min, Reduction.extremum]
  | max => simp [run, Reduction.max, Reduction.extremum]
  | first => simp [run, Reduction.orElse]

end Number

variable {t : IntegerType}

def combine : Aggregation → Fixed t → Fixed t → Fixed t
  | sum, a, b => a.add b
  | min, a, b => if b.val < a.val then b else a
  | max, a, b => if a.val < b.val then b else a
  | first, a, _ => a
  | last, _, b => b
  | mean, a, _ => a

lemma combine_assoc (m : Aggregation) (a b c : Fixed t) :
    m.combine (m.combine a b) c = m.combine a (m.combine b c) := by
  cases m with
  | sum => exact Fixed.add_assoc a b c
  | min =>
    simp only [combine]
    grind
  | max =>
    simp only [combine]
    grind
  | first => rfl
  | last => rfl
  | mean => rfl

lemma extremumFrom_eq_foldl (better : Fixed t → Fixed t → Bool) (best : Fixed t)
    (as : List (Fixed t)) :
    Reduction.extremumFrom better best as =
      as.foldl (fun a b => if better b a then b else a) best :=
  Reduction.extremumFrom_eq_foldl Bool.false_ne_true fun _ _ => Bool.false_ne_true

lemma run_cons {m : Aggregation} (hm : m ≠ mean) (a : Fixed t) (as : List (Fixed t)) :
    m.run (a :: as) = .ok (as.foldl m.combine a) := by
  cases m with
  | mean => exact absurd rfl hm
  | sum =>
    have hzero : Number.add Number.zero a = a := Fixed.zero_add a
    simp only [run, Reduction.sum, List.foldl_cons, hzero]
    rfl
  | min =>
    simp only [run, Reduction.min, Reduction.extremum, extremumFrom_eq_foldl, Fixed.less_eq,
      decide_eq_true_eq]
    rfl
  | max =>
    simp only [run, Reduction.max, Reduction.extremum, extremumFrom_eq_foldl, Fixed.greater_eq,
      decide_eq_true_eq]
    rfl
  | first =>
    have hfold : as.foldl (combine first) a = a := by
      induction as with
      | nil => rfl
      | cons b as ih => exact ih
    rw [hfold]
    rfl
  | last =>
    have hfold : as.foldl (combine last) a = (a :: as).getLast (List.cons_ne_nil a as) := by
      induction as generalizing a with
      | nil => rfl
      | cons b as ih => exact (ih b).trans (List.getLast_cons_cons).symm
    rw [hfold, run, List.getLast?_eq_getLast_of_ne_nil (List.cons_ne_nil a as)]
    rfl

lemma run_singleton (m : Aggregation) (a : Fixed t) : m.run [a] = .ok a := by
  by_cases hm : m = mean
  · subst hm
    have hone : Number.ofNat? [a].length = some (Fixed.one : Fixed t) :=
      Fixed.ofNat?_eq_some_iff.mpr rfl
    have hsum : Reduction.sum [a] = a := Fixed.zero_add a
    refine Reduction.mean_eq_ok_iff.mpr ⟨List.cons_ne_nil a [], Fixed.one, hone, ?_⟩
    rw [hsum]
    apply Fixed.ext
    exact (Fixed.val_div_of_pos a Int.one_pos).trans (Int.tdiv_one a.val)
  · rw [run_cons hm, List.foldl_nil]

def symmetric : List Aggregation := [sum, mean, min, max]

lemma combine_comm {m : Aggregation} (hm : m ∈ symmetric) (hmean : m ≠ mean) (a b : Fixed t) :
    m.combine a b = m.combine b a := by
  cases m with
  | sum =>
    simp only [combine, Fixed.add, Int.add_comm]
  | min =>
    apply Fixed.ext
    simp only [combine]
    grind
  | max =>
    apply Fixed.ext
    simp only [combine]
    grind
  | mean => exact absurd rfl hmean
  | first | last => exact absurd hm (by decide)

lemma mean_perm {as bs : List (Fixed t)} (h : as.Perm bs) :
    Reduction.mean as = Reduction.mean bs := by
  have hsum : Reduction.sum as = Reduction.sum bs := by
    rw [Fixed.sum_eq_wrap, Fixed.sum_eq_wrap, Fixed.exactSum, (h.map Fixed.val).sum_eq,
      Fixed.exactSum]
  cases as with
  | nil => rw [h.nil_eq]
  | cons a as =>
    have hne : bs ≠ [] := by
      rintro rfl
      exact List.cons_ne_nil a as h.eq_nil
    obtain ⟨b, bs, rfl⟩ := List.exists_cons_of_ne_nil hne
    simp only [Reduction.mean, Reduction.checkNonempty, hsum, h.length_eq]

theorem run_perm {m : Aggregation} (hm : m ∈ symmetric) {as bs : List (Fixed t)} (h : as.Perm bs) :
    m.run as = m.run bs := by
  by_cases hmean : m = mean
  · subst hmean
    exact mean_perm h
  have hassoc : Std.Associative (m.combine (t := t)) := ⟨combine_assoc m⟩
  have hcomm : Std.Commutative (m.combine (t := t)) := ⟨combine_comm hm hmean⟩
  induction h with
  | nil => rfl
  | cons a h _ => rw [run_cons hmean, run_cons hmean, h.foldl_op_eq]
  | swap a b as =>
    rw [run_cons hmean, run_cons hmean, List.foldl_cons, List.foldl_cons, combine_comm hm hmean]
  | trans _ _ ih ih' => exact ih.trans ih'

theorem mem_symmetric_iff (t : IntegerType) {m : Aggregation} :
    m ∈ symmetric ↔ ∀ as bs : List (Fixed t), as.Perm bs → m.run as = m.run bs := by
  constructor
  · intro hm as bs h
    exact run_perm hm h
  · intro h
    have hswap := h [.zero, .one] [.one, .zero] (.swap Fixed.one Fixed.zero [])
    have hne : (.ok .zero : Result (Fixed t)) ≠ .ok Fixed.one := by
      intro he
      exact absurd (congrArg Fixed.val (Except.ok.inj he)) (by decide : (0 : Int) ≠ 1)
    cases m with
    | first => exact absurd hswap hne
    | last => exact absurd hswap.symm hne
    | mean | sum | min | max => decide

lemma foldl_flatten {m : Aggregation} (hm : m ≠ mean) {ass : List (List (Fixed t))}
    {bs : List (Fixed t)} (h : List.Forall₂ (fun as b => as ≠ [] ∧ m.run as = .ok b) ass bs)
    (a : Fixed t) : ass.flatten.foldl m.combine a = bs.foldl m.combine a := by
  have hassoc : Std.Associative (m.combine (t := t)) := ⟨combine_assoc m⟩
  induction h generalizing a with
  | nil => rfl
  | cons hrun _ ih =>
    obtain ⟨hne, hrun⟩ := hrun
    obtain ⟨c, as, rfl⟩ := List.exists_cons_of_ne_nil hne
    rw [run_cons hm] at hrun
    cases hrun
    rw [List.flatten_cons, List.foldl_append, ih, List.foldl_cons, List.foldl_assoc,
      List.foldl_cons]

theorem run_flatten {m : Aggregation} (hm : m ≠ mean) {ass : List (List (Fixed t))}
    {bs : List (Fixed t)} (h : List.Forall₂ (fun as b => as ≠ [] ∧ m.run as = .ok b) ass bs) :
    m.run ass.flatten = m.run bs := by
  cases h with
  | nil => rfl
  | cons hrun hrest =>
    obtain ⟨hne, hrun⟩ := hrun
    obtain ⟨c, as, rfl⟩ := List.exists_cons_of_ne_nil hne
    rw [run_cons hm] at hrun
    cases hrun
    rw [List.flatten_cons, List.cons_append, run_cons hm, run_cons hm, List.foldl_append,
      foldl_flatten hm hrest]

end Columnar.Aggregation
