import Columnar.Proofs.Missing.Reductions

namespace Columnar.NotNaN

variable {α : Type} [Floating α] {as bs : List α} {a : α}

/-- The second sequence is the first with NaNs put in, anywhere and as many as one likes. -/
inductive Padded : List α → List α → Prop
  | nil : Padded [] []
  | keep (a : α) {as bs : List α} (h : Padded as bs) : Padded (a :: as) (a :: bs)
  | put {a : α} {as bs : List α} (ha : Floating.isNaN a) (h : Padded as bs) : Padded as (a :: bs)

lemma kept_eq_of_padded (h : Padded as bs) : kept bs = kept as := by
  induction h with
  | nil => rfl
  | keep a _ ih => rw [kept, List.filter_cons, kept, List.filter_cons, ← kept, ← kept, ih]
  | put ha _ ih =>
    rw [kept, List.filter_cons_of_neg (by simp [ha]), ← kept]
    exact ih

lemma not_isNaN_of_mem_kept (h : a ∈ kept as) : ¬Number.isNaN a := by
  obtain ⟨-, hkept⟩ := List.mem_filter.mp h
  rw [Bool.not_eq_true'] at hkept
  exact Bool.eq_false_iff.mp hkept

lemma kept_eq_nil_iff : kept as = [] ↔ ∀ a ∈ as, Floating.isNaN a := by
  simp [kept, List.filter_eq_nil_iff]

open Marked in
lemma present_ofRawValues (as : List α) : present (ofRawValues .nan as) = kept as := by
  have hguard : toOption ∘ (.mk : α → Marked .nan α) = Option.guard fun a => !Floating.isNaN a := by
    funext a
    change (if Floating.isNaN a then none else some a) = if !Floating.isNaN a then some a else none
    cases Floating.isNaN a <;> rfl
  rw [present, ofRawValues, List.filterMap_map, hguard, List.filterMap_eq_filter]
  rfl

lemma missingCount_add_count (as : List α) :
    Marked.missingCount (Marked.ofRawValues .nan as) + count as = as.length := by
  have hlength := Marked.length_present_add (Marked.ofRawValues .nan as)
  have hsame : (Marked.ofRawValues .nan as).length = as.length := List.length_map _
  rw [present_ofRawValues, hsame, Nat.add_comm] at hlength
  exact hlength

lemma sum_ofRawValues (as : List α) : Marked.sum (Marked.ofRawValues .nan as) = sum as := by
  rw [Marked.sum, present_ofRawValues]
  rfl

lemma mean_ofRawValues (as : List α) : Marked.mean (Marked.ofRawValues .nan as) = mean as := by
  rw [Marked.mean, Marked.total, present_ofRawValues]
  rfl

lemma min_ofRawValues (as : List α) : Marked.min (Marked.ofRawValues .nan as) = min as := by
  rw [Marked.min, present_ofRawValues]
  rfl

lemma max_ofRawValues (as : List α) : Marked.max (Marked.ofRawValues .nan as) = max as := by
  rw [Marked.max, present_ofRawValues]
  rfl

lemma mean_eq_kept (as : List α) : mean as = Reduction.mean (kept as) := by
  rw [← mean_ofRawValues, Marked.mean_eq, present_ofRawValues]

lemma min_eq_kept (as : List α) : min as = Reduction.min (kept as) :=
  Reduction.best?_eq_extremum fun _ => not_isNaN_of_mem_kept

lemma max_eq_kept (as : List α) : max as = Reduction.max (kept as) :=
  Reduction.best?_eq_extremum fun _ => not_isNaN_of_mem_kept

theorem reductions_not_nan (as : List α) :
    let others := as.filter fun a => !Floating.isNaN a
    let xs : List (Marked .nan α) := Marked.ofRawValues .nan as
    (count as = others.length ∧ sum as = Reduction.sum others ∧ mean as = Reduction.mean others ∧
      min as = Reduction.min others ∧ max as = Reduction.max others ∧
      variance as = Reduction.variance others) ∧
    ((∀ a ∈ as, Floating.isNaN a) →
      sum as = Floating.zero ∧ mean as = .error (.emptyInput "values") ∧
      min as = .error (.emptyInput "values") ∧
        max as = .error (.emptyInput "values") ∧ variance as = .error (.emptyInput "values")) ∧
    ((∃ a ∈ as, ¬Floating.isNaN a) → ∃ centre least greatest spread,
      mean as = .ok centre ∧ min as = .ok least ∧ max as = .ok greatest ∧
      variance as = .ok spread) ∧
    (∀ bs, Padded as bs → count bs = count as ∧ sum bs = sum as ∧ mean bs = mean as ∧
      min bs = min as ∧
      max bs = max as ∧ variance bs = variance as) ∧
    Marked.missingCount xs + count as = as.length ∧ Marked.sum xs = sum as ∧
      Marked.mean xs = mean as ∧
      Marked.min xs = min as ∧ Marked.max xs = max as := by
  intro others xs
  refine ⟨⟨rfl, rfl, mean_eq_kept as, min_eq_kept as, max_eq_kept as, rfl⟩, ?_, ?_, ?_,
    missingCount_add_count as, sum_ofRawValues as, mean_ofRawValues as, min_ofRawValues as,
    max_ofRawValues as⟩
  · intro hnan
    have hnone := kept_eq_nil_iff.mpr hnan
    rw [sum, mean_eq_kept, min_eq_kept, max_eq_kept, variance, hnone]
    exact ⟨rfl, rfl, rfl, rfl, rfl⟩
  · rintro ⟨a, ha, hnumber⟩
    have hsome : kept as ≠ [] := fun hnone => hnumber (kept_eq_nil_iff.mp hnone a ha)
    obtain ⟨b, bs, hkept⟩ := List.exists_cons_of_ne_nil hsome
    rw [mean_eq_kept, min_eq_kept, max_eq_kept, variance, hkept]
    exact ⟨_, _, _, _, rfl, rfl, rfl, rfl⟩
  · intro bs hpadded
    simp only [count, sum, mean_eq_kept, min_eq_kept, max_eq_kept, variance,
      kept_eq_of_padded hpadded, and_self]

theorem reductions_not_nan_between :
    let one : Float := Floating.scaled 1 0
    let two : Float := Floating.scaled 2 0
    let as : List Float := [Floating.nan, two, Floating.nan, one]
    Padded [two, one] as ∧ count as = 2 ∧ min as = .ok one ∧ min as = min [two, one] ∧
      Marked.min (Marked.ofRawValues .nan as) = .ok one ∧
      Marked.missingCount (Marked.ofRawValues .nan as) = 2 := by
  intro one two as
  have hpadded : Padded [two, one] as := .put rfl (.keep two (.put rfl (.keep one .nil)))
  obtain ⟨-, -, -, hpad, -⟩ := reductions_not_nan [two, one]
  obtain ⟨hcount, -, -, hmin, -⟩ := hpad as hpadded
  obtain ⟨-, -, -, -, hmissing, -, -, hmarked, -⟩ := reductions_not_nan as
  have hone : min as = .ok one := hmin.trans (by decide +kernel)
  have htwo : count as = 2 := hcount.trans (by decide +kernel)
  have hlength : as.length = 4 := rfl
  exact ⟨hpadded, htwo, hone, hmin, hmarked.trans hone, by omega⟩

end Columnar.NotNaN
