import Columnar.Annotated.Categories
import Mathlib.Data.Set.Lattice
import Mathlib.Order.CompletePartialOrder
import Mathlib.Tactic.Lemma

/-! The relations of category sets are those of the sets of values that they stand for. What is
decided by counting members is right because no member is counted twice. -/

namespace Columnar

class LawfulCategories (γ : Type) (α : outParam Type) [BEq α] [Categories γ α] : Prop where
  distinct (s : γ) : Distinct (Categories.members s)

instance {α : Type} [BEq α] : LawfulCategories (CategorySet α) α := ⟨CategorySet.distinct⟩

instance {α : Type} [BEq α] : LawfulCategories (FrozenCategorySet α) α := ⟨fun s => s.set.distinct⟩

section Counting

variable {α : Type} [BEq α] {as bs : List α}

def Within (as bs : List α) : Prop := ∀ a ∈ as, ∃ b ∈ bs, b == a

variable [EquivBEq α]

lemma length_le_of_within (has : Distinct as) (h : Within as bs) : as.length ≤ bs.length := by
  induction as generalizing bs with
  | nil => exact Nat.zero_le _
  | cons a as ih =>
    obtain ⟨hne, has⟩ := List.pairwise_cons.mp has
    obtain ⟨⟨b, hb, hba⟩, hrest⟩ := List.forall_mem_cons.mp h
    obtain ⟨before, after, rfl⟩ := List.append_of_mem hb
    -- what equals the first value equals none of the others
    have hothers : Within as (before ++ after) := by
      intro c hc
      obtain ⟨d, hd, hdc⟩ := hrest c hc
      rw [List.mem_append, List.mem_cons] at hd
      rcases hd with hd | rfl | hd
      · exact ⟨d, List.mem_append_left after hd, hdc⟩
      · have hac : a == c := BEq.trans (BEq.symm hba) hdc
        rw [hne c hc] at hac
        cases hac
      · exact ⟨d, List.mem_append_right before hd, hdc⟩
    have hlength := ih has hothers
    simp only [List.length_append, List.length_cons] at hlength ⊢
    omega

lemma length_lt_iff_of_within (has : Distinct as) (hbs : Distinct bs) (h : Within as bs) :
    as.length < bs.length ↔ ¬ Within bs as := by
  constructor
  · intro hlt hback
    exact absurd (length_le_of_within hbs hback) (Nat.not_le.mpr hlt)
  · intro hback
    obtain ⟨b, hb, hnew⟩ : ∃ b ∈ bs, ∀ a ∈ as, ¬ a == b := by
      simpa only [Within, not_forall, not_exists, not_and, exists_prop] using hback
    -- the value that is not in the first list fits in front of it
    have hdistinct : Distinct (b :: as) := by
      refine List.pairwise_cons.mpr ⟨fun a ha => ?_, has⟩
      rw [BEq.comm]
      exact Bool.eq_false_iff.mpr (hnew a ha)
    have hwithin : Within (b :: as) bs := List.forall_mem_cons.mpr ⟨⟨b, hb, BEq.rfl⟩, h⟩
    exact length_le_of_within hdistinct hwithin

end Counting

namespace Categories

variable {γ δ ε α : Type} [BEq α] [Categories γ α] [Categories δ α] [Categories ε α]

def memberSet (s : γ) : Set α := {a | ∃ b ∈ members s, b == a}

lemma contains_iff {s : γ} {a : α} : contains s a ↔ a ∈ memberSet s := List.any_eq_true

lemma all_contains_iff {s : γ} {t : δ} :
    (members s).all (contains t) ↔ Within (members s) (members t) := by
  simp only [List.all_eq_true, contains_iff]
  rfl

lemma memberSet_of_isEmpty {s : γ} (h : isEmpty s) : memberSet s = ∅ := by
  have hmembers : members s = [] := List.isEmpty_iff.mp h
  simp [memberSet, hmembers]

variable [EquivBEq α]

lemma mem_memberSet_of_mem {s : γ} {a : α} (h : a ∈ members s) : a ∈ memberSet s := ⟨a, h, BEq.rfl⟩

lemma memberSet_subset_iff {s : γ} {t : δ} :
    memberSet s ⊆ memberSet t ↔ Within (members s) (members t) := by
  constructor
  · intro h a ha
    exact h (mem_memberSet_of_mem ha)
  · rintro h a ⟨b, hb, hba⟩
    obtain ⟨c, hc, hcb⟩ := h b hb
    exact ⟨c, hc, BEq.trans hcb hba⟩

lemma overlaps_iff {s : γ} {t : δ} : overlaps s t ↔ (memberSet s ∩ memberSet t).Nonempty := by
  rw [overlaps, List.any_eq_true]
  constructor
  · rintro ⟨a, ha, hcontains⟩
    exact ⟨a, mem_memberSet_of_mem ha, contains_iff.mp hcontains⟩
  · rintro ⟨a, ⟨b, hb, hba⟩, ⟨c, hc, hca⟩⟩
    exact ⟨b, hb, contains_iff.mpr ⟨c, hc, BEq.trans hca (BEq.symm hba)⟩⟩

variable [LawfulCategories γ α]

lemma size_le_of_subset {s : γ} {t : δ} (h : memberSet s ⊆ memberSet t) : size s ≤ size t :=
  length_le_of_within (LawfulCategories.distinct s) (memberSet_subset_iff.mp h)

lemma isSubset_iff {s : γ} {t : δ} : isSubset s t ↔ memberSet s ⊆ memberSet t := by
  rw [isSubset, Bool.and_eq_true, decide_eq_true_iff, all_contains_iff, ← memberSet_subset_iff]
  exact and_iff_right_of_imp size_le_of_subset

variable [LawfulCategories δ α]

lemma size_lt_iff {s : γ} {t : δ} (h : memberSet s ⊆ memberSet t) :
    size s < size t ↔ ¬ memberSet t ⊆ memberSet s := by
  rw [memberSet_subset_iff] at h ⊢
  exact length_lt_iff_of_within (LawfulCategories.distinct s) (LawfulCategories.distinct t) h

lemma isProperSubset_iff {s : γ} {t : δ} : isProperSubset s t ↔ memberSet s ⊂ memberSet t := by
  rw [isProperSubset, Bool.and_eq_true, decide_eq_true_iff, isSubset_iff, and_comm]
  exact and_congr_right size_lt_iff

lemma setEquals_iff {s : γ} {t : δ} : setEquals s t ↔ memberSet s = memberSet t := by
  rw [setEquals, Bool.and_eq_true, beq_iff_eq, isSubset_iff, Set.Subset.antisymm_iff, and_comm]
  apply and_congr_right
  intro h
  have hle := size_le_of_subset h
  rw [← not_iff_not, ← size_lt_iff h]
  omega

theorem relations_iff_memberSets [LawfulCategories ε α] (s : γ) (t : δ) (u : ε) :
    (isSubset s t ↔ memberSet s ⊆ memberSet t) ∧
    (isProperSubset s t ↔ memberSet s ⊂ memberSet t) ∧
    (isSuperset s t ↔ memberSet t ⊆ memberSet s) ∧
    (isProperSuperset s t ↔ memberSet t ⊂ memberSet s) ∧
    (overlaps s t ↔ (memberSet s ∩ memberSet t).Nonempty) ∧
    (setEquals s t ↔ memberSet s = memberSet t) ∧
    isSubset s s ∧
    (isSubset s t → isSubset t u → isSubset s u) ∧
    (isSubset s t ∧ isSubset t s ↔ setEquals s t) ∧
    isSuperset s t = isSubset t s ∧
    overlaps s t = overlaps t s ∧
    (isEmpty s → isSubset s t ∧ ¬ overlaps s t) := by
  refine ⟨isSubset_iff, isProperSubset_iff, isSubset_iff, isProperSubset_iff, overlaps_iff,
    setEquals_iff, ?_, ?_, ?_, rfl, ?_, ?_⟩
  · exact isSubset_iff.mpr subset_rfl
  · intro hst htu
    exact isSubset_iff.mpr ((isSubset_iff.mp hst).trans (isSubset_iff.mp htu))
  · rw [isSubset_iff, isSubset_iff, setEquals_iff, Set.Subset.antisymm_iff]
  · rw [Bool.eq_iff_iff, overlaps_iff, overlaps_iff, Set.inter_comm]
  · intro hempty
    rw [isSubset_iff, overlaps_iff, memberSet_of_isEmpty hempty, Set.empty_inter]
    exact ⟨Set.empty_subset _, Set.not_nonempty_empty⟩

theorem relations_iff_memberSets_frozen :
    ∃ (s : CategorySet Char) (t : FrozenCategorySet Char),
      s = ((CategorySet.ofList ['a', 'b', 'c', 'a']).erase 'b').add 'd' ∧
      t = FrozenCategorySet.ofList ['d', 'e', 'c', 'a', 'e'] ∧
      memberSet s ⊂ memberSet t ∧ isProperSuperset t s := by
  refine ⟨_, _, rfl, rfl, ?_, rfl⟩
  exact (relations_iff_memberSets _ _ (∅ : CategorySet Char)).2.1.mp rfl

end Categories

end Columnar
