import Columnar.Kernel.Present
import Mathlib.Tactic.Lemma

/-! The extremum of a sequence is a NaN if one of its values is. The fold that only keeps the better
of two values passes over every NaN but the first value. -/

namespace Columnar.Reduction

variable {α : Type} [Number α] {better : α → α → Bool} {a : α} {as : List α}

def keepBetter (better : α → α → Bool) (best a : α) : α := if better a best then a else best

lemma extremumFrom_of_isNaN (h : Number.isNaN a) (as : List α) : extremumFrom better a as = a := by
  cases as with
  | nil => rfl
  | cons b as => simp only [extremumFrom, h, if_true]

lemma isNaN_extremumFrom (h : ∃ b ∈ as, Number.isNaN b) (a : α) :
    Number.isNaN (extremumFrom better a as) := by
  induction as generalizing a with
  | nil => simp at h
  | cons b as ih =>
    by_cases ha : Number.isNaN a
    · rw [extremumFrom_of_isNaN ha]
      exact ha
    simp only [extremumFrom, ha, Bool.false_eq_true, if_false]
    by_cases hb : Number.isNaN b
    · simp only [hb, Bool.true_or, if_true]
      rw [extremumFrom_of_isNaN hb]
      exact hb
    · apply ih
      simpa [hb] using h

lemma extremumFrom_eq_foldl (ha : ¬Number.isNaN a) (has : ∀ b ∈ as, ¬Number.isNaN b) :
    extremumFrom better a as = as.foldl (keepBetter better) a := by
  induction as generalizing a with
  | nil => rfl
  | cons b as ih =>
    obtain ⟨hb, has⟩ := List.forall_mem_cons.mp has
    simp only [extremumFrom, ha, hb, Bool.false_or, Bool.false_eq_true, if_false, List.foldl_cons]
    apply ih _ has
    split
    · exact hb
    · exact ha

lemma isNaN_extremum (h : ∃ a ∈ as, Number.isNaN a) :
    ∃ a, extremum better as = .ok a ∧ Number.isNaN a := by
  cases as with
  | nil => simp at h
  | cons a as =>
    refine ⟨extremumFrom better a as, rfl, ?_⟩
    by_cases ha : Number.isNaN a
    · rw [extremumFrom_of_isNaN ha]
      exact ha
    · apply isNaN_extremumFrom
      simpa [ha] using h

section Fold

variable (hbetter : ∀ a b : α, Number.isNaN a ∨ Number.isNaN b → better a b = false)
include hbetter

lemma foldl_of_isNaN (h : Number.isNaN a) (as : List α) : as.foldl (keepBetter better) a = a := by
  induction as with
  | nil => rfl
  | cons b as ih =>
    have hkeep : keepBetter better a b = a := by simp [keepBetter, hbetter b a (.inr h)]
    rw [List.foldl_cons, hkeep, ih]

lemma foldl_filter_isNaN (a : α) (as : List α) :
    (as.filter fun b => !Number.isNaN b).foldl (keepBetter better) a =
      as.foldl (keepBetter better) a := by
  induction as generalizing a with
  | nil => rfl
  | cons b as ih =>
    by_cases hb : Number.isNaN b
    · have hkeep : keepBetter better a b = a := by simp [keepBetter, hbetter b a (.inl hb)]
      simp [hb, hkeep, ih]
    · simp [hb, ih]

lemma not_isNaN_foldl (h : ¬Number.isNaN a) (as : List α) :
    ¬Number.isNaN (as.foldl (keepBetter better) a) := by
  induction as generalizing a with
  | nil => exact h
  | cons b as ih =>
    apply ih
    simp only [keepBetter]
    split
    case isTrue hb =>
      intro hnan
      rw [hbetter b a (.inl hnan)] at hb
      cases hb
    case isFalse => exact h

end Fold

section Least

variable {key : α → Int} (hbetter : ∀ a b : α, better a b ↔ key a < key b)
include hbetter

omit [Number α] in
lemma key_foldl_le (a : α) (as : List α) :
    ∀ b ∈ a :: as, key (as.foldl (keepBetter better) a) ≤ key b := by
  induction as generalizing a with
  | nil => simp
  | cons c as ih =>
    have hkeep : key (keepBetter better a c) ≤ key a ∧ key (keepBetter better a c) ≤ key c := by
      simp only [keepBetter, hbetter]
      split <;> omega
    have hfold := ih (keepBetter better a c)
    have hle := (List.forall_mem_cons.mp hfold).1
    simp only [List.forall_mem_cons] at hfold ⊢
    exact ⟨Int.le_trans hle hkeep.1, Int.le_trans hle hkeep.2, hfold.2⟩

lemma exists_extremum (hnan : ∀ a ∈ as, ¬Number.isNaN a) (hne : as ≠ []) :
    ∃ b, extremum better as = .ok b ∧ ∀ a ∈ as, key b ≤ key a := by
  obtain ⟨a, as, rfl⟩ := List.exists_cons_of_ne_nil hne
  obtain ⟨ha, has⟩ := List.forall_mem_cons.mp hnan
  refine ⟨_, ?_, key_foldl_le hbetter a as⟩
  rw [extremum, extremumFrom_eq_foldl ha has]

end Least

def NaNFirst : List α → Prop
  | [] => True
  | a :: as => Number.isNaN a ∨ ∀ b ∈ as, ¬Number.isNaN b

def SameResult (r s : Result α) : Prop :=
  r = s ∨ ∃ a b, r = .ok a ∧ s = .ok b ∧ Number.isNaN a ∧ Number.isNaN b

omit [Number α] in
lemma best?_cons (better : α → α → Bool) (a : α) (as : List α) :
    orElse noValues (best? better (a :: as)) = .ok (as.foldl (keepBetter better) a) := rfl

lemma best?_eq_extremum (h : ∀ a ∈ as, ¬Number.isNaN a) :
    orElse noValues (best? better as) = extremum better as := by
  cases as with
  | nil => rfl
  | cons a as =>
    obtain ⟨ha, has⟩ := List.forall_mem_cons.mp h
    rw [best?_cons, extremum, extremumFrom_eq_foldl ha has]

section Compared

variable (hbetter : ∀ a b : α, Number.isNaN a ∨ Number.isNaN b → better a b = false)
include hbetter

lemma best?_of_nanFirst (h : NaNFirst as) :
    orElse noValues (best? better as) = extremum better as := by
  cases as with
  | nil => rfl
  | cons a as =>
    by_cases ha : Number.isNaN a
    · rw [best?_cons, extremum, foldl_of_isNaN hbetter ha, extremumFrom_of_isNaN ha]
    · exact best?_eq_extremum (List.forall_mem_cons.mpr ⟨ha, h.resolve_left ha⟩)

lemma best?_of_not_nanFirst (h : ¬NaNFirst as) :
    orElse noValues (best? better as) =
      extremum better (as.filter fun a => !Number.isNaN a) := by
  cases as with
  | nil => exact absurd trivial h
  | cons a as =>
    have ha : ¬Number.isNaN a := fun ha => h (.inl ha)
    have hfilter : ∀ b ∈ as.filter fun b => !Number.isNaN b, ¬Number.isNaN b := by
      simp
    simp only [List.filter_cons, ha, Bool.not_false, if_true]
    rw [best?_cons, extremum, extremumFrom_eq_foldl ha hfilter, foldl_filter_isNaN hbetter]

lemma sameResult_best?_iff :
    SameResult (orElse noValues (best? better as)) (extremum better as) ↔ NaNFirst as := by
  refine ⟨fun hsame => ?_, fun h => .inl (best?_of_nanFirst hbetter h)⟩
  by_cases h : NaNFirst as
  · exact h
  cases as with
  | nil => exact trivial
  | cons a as =>
    obtain ⟨ha, hsome⟩ : ¬Number.isNaN a ∧ ¬∀ b ∈ as, ¬Number.isNaN b := not_or.mp h
    obtain ⟨c, hc, hnan⟩ : ∃ c, extremum better (a :: as) = .ok c ∧ Number.isNaN c := by
      apply isNaN_extremum
      simpa [ha] using hsome
    -- the extremum is a NaN, the fold is none
    have hfold := not_isNaN_foldl hbetter ha as
    rw [best?_cons, hc] at hsame
    rcases hsame with heq | ⟨b, -, hb, -, hnb, -⟩
    · rw [Except.ok.inj heq] at hfold
      exact absurd hnan hfold
    · rw [Except.ok.inj hb] at hfold
      exact absurd hnb hfold

end Compared

end Columnar.Reduction
