import Columnar.Proofs.Kernel.Extremum
import Columnar.Proofs.Scalar.NotANumber

/-! The reductions that skip missing values are those of the present ones, except that a minimum or
a maximum passes over a NaN that is present and not the first value. -/

namespace Columnar.Marked

section Number

variable {m : Marker} {α : Type} [Number α]

lemma present_cons (x : Marked m α) (xs : List (Marked m α)) :
    present (x :: xs) = if x.isMissing then present xs else x.raw :: present xs := by
  by_cases hx : x.isMissing <;> simp [present, toOption, hx]

lemma length_present_add (xs : List (Marked m α)) :
    (present xs).length + missingCount xs = xs.length := by
  induction xs with
  | nil => rfl
  | cons x xs ih =>
    simp only [missingCount] at ih
    by_cases hx : x.isMissing
    · simp only [present_cons, missingCount, hx, if_true, List.filter_cons_of_pos, List.length_cons]
      omega
    · simp only [present_cons, missingCount, hx, Bool.false_eq_true, if_false, not_false_eq_true,
        List.filter_cons_of_neg, List.length_cons]
      omega

lemma foldl_pair (as : List α) (acc : α) (n : Nat) :
    as.foldl (fun p a => (Number.add p.1 a, p.2 + 1)) (acc, n) =
      (as.foldl Number.add acc, n + as.length) := by
  induction as generalizing acc n with
  | nil => rfl
  | cons a as ih =>
    rw [List.foldl_cons, ih, List.foldl_cons, List.length_cons, Nat.add_assoc, Nat.add_comm 1]

lemma total_eq (xs : List (Marked m α)) : total xs = (sum xs, (present xs).length) := by
  have hfold := foldl_pair (present xs) Number.zero 0
  rw [Nat.zero_add] at hfold
  exact hfold

lemma mean_eq (xs : List (Marked m α)) : mean xs = Reduction.mean (present xs) := by
  simp only [mean, total_eq, Reduction.mean, sum]
  cases present xs with
  | nil => rfl
  | cons a as => rfl

end Number

variable {m : Marker} {t : NumberType}

lemma isSentinel_of_mem_present {xs : List (Marked m t.Carrier)} {a : t.Carrier}
    (h : a ∈ present xs) : ¬isSentinel m a := by
  obtain ⟨x, -, hx⟩ := List.mem_filterMap.mp h
  simp only [toOption] at hx
  split at hx
  case isTrue => cases hx
  case isFalse hmissing =>
    rw [← Option.some.inj hx]
    exact hmissing

lemma nanFirst_present (h : m = .nan ∨ ∃ s, t = .integer s) (xs : List (Marked m t.Carrier)) :
    Reduction.NaNFirst (present xs) := by
  have hnan : ∀ a ∈ present xs, ¬Number.isNaN a := by
    intro a ha
    rcases h with rfl | ⟨s, rfl⟩
    · exact isSentinel_of_mem_present ha
    · exact Bool.false_ne_true
  cases hxs : present xs with
  | nil => exact trivial
  | cons a as =>
    rw [hxs] at hnan
    exact .inr (List.forall_mem_cons.mp hnan).2

theorem reductions_present (m : Marker) (t : NumberType) (xs : List (Marked m t.Carrier)) :
    missingCount xs = xs.length - (present xs).length ∧
    sum xs = Reduction.sum (present xs) ∧
    mean xs = Reduction.mean (present xs) ∧
    (Reduction.SameResult (min xs) (Reduction.min (present xs)) ↔
      Reduction.NaNFirst (present xs)) ∧
    (Reduction.SameResult (max xs) (Reduction.max (present xs)) ↔
      Reduction.NaNFirst (present xs)) ∧
    (¬Reduction.NaNFirst (present xs) →
      min xs = Reduction.min ((present xs).filter fun a => !Number.isNaN a) ∧
      max xs = Reduction.max ((present xs).filter fun a => !Number.isNaN a)) ∧
    (m = .nan ∨ (∃ s, t = .integer s) → Reduction.NaNFirst (present xs)) := by
  have hless (a b : t.Carrier) := less_of_isNaN (a := a) (b := b)
  have hgreater (a b : t.Carrier) := greater_of_isNaN (a := a) (b := b)
  refine ⟨?_, rfl, mean_eq xs, Reduction.sameResult_best?_iff hless,
    Reduction.sameResult_best?_iff hgreater, fun h => ⟨?_, ?_⟩, fun h => nanFirst_present h xs⟩
  · have hlength := length_present_add xs
    omega
  · exact Reduction.best?_of_not_nanFirst hless h
  · exact Reduction.best?_of_not_nanFirst hgreater h

theorem min_passes_over_nan :
    let one : Float := Floating.scaled 1 0
    let xs : List (Marked .least Float) := [⟨one⟩, ⟨Floating.nan⟩]
    present xs = [one, Floating.nan] ∧ min xs = .ok one ∧
      Reduction.min (present xs) = .ok Floating.nan ∧
      ¬Reduction.SameResult (min xs) (Reduction.min (present xs)) := by
  have hmin : min [(⟨Floating.scaled 1 0⟩ : Marked .least Float), ⟨Floating.nan⟩] =
      .ok (Floating.scaled 1 0) := rfl
  have hnan : Reduction.min [Floating.scaled 1 0, (Floating.nan : Float)] = .ok Floating.nan := rfl
  refine ⟨rfl, hmin, hnan, ?_⟩
  rintro (h | ⟨a, b, ha, -, hna, -⟩)
  · have hsame := congrArg Number.isNaN (Except.ok.inj (hmin.symm.trans (h.trans hnan)))
    exact Bool.false_ne_true hsame
  · rw [← Except.ok.inj (hmin.symm.trans ha)] at hna
    exact Bool.false_ne_true hna

end Columnar.Marked
