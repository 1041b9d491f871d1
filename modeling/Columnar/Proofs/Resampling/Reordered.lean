import Columnar.Proofs.Resampling.Aggregates
import Columnar.Proofs.Resampling.Runs
import Mathlib.Data.List.Perm.Basic
import Mathlib.Data.List.SplitBy

namespace Columnar.Resampler

section Groups

variable {γ κ α : Type} [DecidableEq κ]

/-- The elements of each maximal run of one key are in another order; none has left its run. -/
def PermutedInRuns (key : γ → κ) (xs ys : List γ) : Prop :=
  ∃ parts, List.Forall₂ List.Perm (xs.splitBy fun x y => key x = key y) parts ∧ ys = parts.flatten

variable {key : γ → κ} {xs ys : List γ}

lemma PermutedInRuns.perm (h : PermutedInRuns key xs ys) : xs.Perm ys := by
  obtain ⟨parts, hparts, rfl⟩ := h
  have hflatten := List.Perm.flatten_congr hparts
  rwa [List.flatten_splitBy] at hflatten

lemma key_eq_of_mem_splitBy {part : List γ} (h : part ∈ xs.splitBy fun x y => key x = key y)
    {x y : γ} (hx : x ∈ part) (hy : y ∈ part) : key x = key y := by
  have hchain : (part.map key).IsChain Eq := by
    rw [List.isChain_map]
    exact (List.isChain_of_mem_splitBy h).imp fun _ _ => of_decide_eq_true
  have hpairwise := List.isChain_iff_pairwise.mp hchain
  exact hpairwise.forall_of_forall (fun _ _ => rfl) (List.mem_map_of_mem hx)
    (List.mem_map_of_mem hy)

omit [DecidableEq κ] in
lemma map_eq_of_key_eq {part : List γ} {k : κ} (h : ∀ x ∈ part, key x = k) (f : γ → α) :
    part.map (fun x => (key x, f x)) = (part.map f).map (Prod.mk k) := by
  rw [List.map_map]
  apply List.map_congr_left
  intro x hx
  rw [h x hx]
  rfl

lemma forall₂_grouped_flatten {ps qs : List (List γ)} (h : List.Forall₂ List.Perm ps qs)
    (hparts : ∀ p ∈ ps, p ≠ [] ∧ ∃ k, ∀ x ∈ p, key x = k) (f : γ → α) :
    List.Forall₂ (fun g h => g.1 = h.1 ∧ g.2.Perm h.2)
      (grouped (ps.flatten.map fun x => (key x, f x)))
        (grouped (qs.flatten.map fun x => (key x, f x))) := by
  induction h with
  | nil => exact .nil
  | @cons p q ps qs hperm _ ih =>
    obtain ⟨⟨hne, k, hkey⟩, hrest⟩ := List.forall_mem_cons.mp hparts
    have hkey' : ∀ x ∈ q, key x = k := fun x hx => hkey x (hperm.mem_iff.mpr hx)
    have hp : p.map f ≠ [] := mt List.map_eq_nil_iff.mp hne
    have hq : q.map f ≠ [] := by
      intro hnil
      rw [List.map_eq_nil_iff] at hnil
      subst hnil
      exact hne hperm.eq_nil
    rw [List.flatten_cons, List.flatten_cons, List.map_append, List.map_append,
      map_eq_of_key_eq hkey, map_eq_of_key_eq hkey', grouped_append hp, grouped_append hq]
    exact forall₂_attach List.Perm.append k (hperm.map f) (ih hrest)

lemma PermutedInRuns.forall₂_grouped (h : PermutedInRuns key xs ys) (f : γ → α) :
    List.Forall₂ (fun g h => g.1 = h.1 ∧ g.2.Perm h.2)
      (grouped (xs.map fun x => (key x, f x))) (grouped (ys.map fun x => (key x, f x))) := by
  obtain ⟨parts, hparts, rfl⟩ := h
  rw [← List.flatten_splitBy (fun x y => key x = key y) xs]
  apply forall₂_grouped_flatten hparts
  intro p hp
  have hne := List.ne_nil_of_mem_splitBy hp
  refine ⟨hne, key (p.head hne), ?_⟩
  intro x hx
  exact key_eq_of_mem_splitBy hp hx (List.head_mem hne)

end Groups

theorem runs_permuted {ι κ α β : Type} [DecidableEq κ] {key : ι → Result κ}
    {aggregate : List α → Result β}
    {xs ys : List (ι × α)} (haggregate : ∀ as bs, as.Perm bs → aggregate as = aggregate bs)
    (hkeys : ∀ x ∈ xs, ∃ k, key x.1 = .ok k) (h : PermutedInRuns (fun x => key x.1) xs ys) :
    runs key aggregate xs = runs key aggregate ys := by
  have hkeys' : ∀ y ∈ ys, ∃ k, key y.1 = .ok k := fun y hy => hkeys y (h.perm.mem_iff.mpr hy)
  rw [runs_eq_mapM hkeys, runs_eq_mapM hkeys']
  apply mapM_congr
  refine (h.forall₂_grouped Prod.snd).imp ?_
  rintro ⟨k, as⟩ ⟨l, bs⟩ ⟨rfl, hperm⟩
  simp only [rowOf, haggregate as bs hperm]

variable {t : IntegerType} {r : Resampler} {xs ys : List (Timestamp × Fixed t)}

theorem resample_permuted (hmethod : r.config.method ∈ Aggregation.symmetric)
    (hkeys : ∀ x ∈ xs, ∃ p, r.key x.1 = .ok p) (h : PermutedInRuns (fun x => r.key x.1) xs ys) :
    r.resample (xs.map Prod.fst) (xs.map Prod.snd) =
      r.resample (ys.map Prod.fst) (ys.map Prod.snd) := by
  rw [resample_rows, resample_rows,
    runs_permuted ((Aggregation.mem_symmetric_iff t).mp hmethod) hkeys h]

theorem resample_permuted_day :
    ∃ (xs ys : List (Timestamp × Fixed .int8)),
      xs.map (fun x => (x.1.millis, x.2.val)) = [(0, 100), (3600000, 26), (-1, 1), (0, 7)] ∧
      ys.map (fun y => (y.1.millis, y.2.val)) = [(3600000, 26), (0, 100), (-1, 1), (0, 7)] ∧
      PermutedInRuns (fun x => (universal .daily .mean).key x.1) xs ys ∧
      (universal .daily .mean).resample (xs.map Prod.fst) (xs.map Prod.snd) =
        (universal .daily .mean).resample (ys.map Prod.fst) (ys.map Prod.snd) := by
  let first : Timestamp × Fixed .int8 := (⟨⟨0, by decide⟩⟩, ⟨100, by decide⟩)
  let second : Timestamp × Fixed .int8 := (⟨⟨3600000, by decide⟩⟩, ⟨26, by decide⟩)
  let before : Timestamp × Fixed .int8 := (⟨⟨-1, by decide⟩⟩, ⟨1, by decide⟩)
  let again : Timestamp × Fixed .int8 := (⟨⟨0, by decide⟩⟩, ⟨7, by decide⟩)
  have hsplit : [first, second, before, again].splitBy (fun x y =>
      (universal .daily .mean).key x.1 = (universal .daily .mean).key y.1) =
        [[first, second], [before], [again]] := rfl
  have hpermuted : PermutedInRuns (fun x => (universal .daily .mean).key x.1)
      [first, second, before, again] [second, first, before, again] := by
    refine ⟨[[second, first], [before], [again]], ?_, rfl⟩
    rw [hsplit]
    exact .cons (.swap second first []) (.cons (.refl _) (.cons (.refl _) .nil))
  have hkeys : ∀ x ∈ [first, second, before, again],
      ∃ p, (universal .daily .mean).key x.1 = .ok p := by
    simp only [List.forall_mem_cons]
    exact ⟨⟨_, rfl⟩, ⟨_, rfl⟩, ⟨_, rfl⟩, ⟨_, rfl⟩, List.forall_mem_nil _⟩
  exact ⟨_, _, rfl, rfl, hpermuted, resample_permuted (by decide) hkeys hpermuted⟩

end Columnar.Resampler
