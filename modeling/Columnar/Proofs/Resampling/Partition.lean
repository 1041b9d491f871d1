import Columnar.Proofs.Resampling.Aggregates
import Columnar.Proofs.Resampling.Runs

/-! The groups lie between cut points of the input, at which the key changes and nowhere else. -/

namespace Columnar.Resampler

section Cuts

variable {κ α β : Type}

/-- There are `k` maximal runs, the run `j` from position `cut j` up to position `cut (j + 1)`. -/
structure RunCuts (keys : List κ) (k : Nat) (cut : Nat → Nat) : Prop where
  cut_zero : cut 0 = 0
  cut_last : cut k = keys.length
  cut_lt : ∀ j < k, cut j < cut (j + 1)
  same : ∀ j < k, ∀ i, cut j ≤ i → i < cut (j + 1) → keys[i]? = keys[cut j]?
  differ : ∀ j, j + 1 < k → keys[cut j]? ≠ keys[cut (j + 1)]?

def groupStart (gs : List (κ × List α)) (j : Nat) : Nat := (ungrouped (gs.take j)).length

lemma ungrouped_append (gs hs : List (κ × List α)) :
    ungrouped (gs ++ hs) = ungrouped gs ++ ungrouped hs := List.flatMap_append

lemma ungrouped_take_succ {gs : List (κ × List α)} {j : Nat} (h : j < gs.length) :
    ungrouped (gs.take (j + 1)) = ungrouped (gs.take j) ++ gs[j].2.map (Prod.mk gs[j].1) := by
  rw [List.take_succ_eq_append_getElem h, ungrouped_append]
  simp [ungrouped]

lemma groupStart_succ {gs : List (κ × List α)} {j : Nat} (h : j < gs.length) :
    groupStart gs (j + 1) = groupStart gs j + gs[j].2.length := by
  rw [groupStart, ungrouped_take_succ h, List.length_append, List.length_map, groupStart]

lemma groupStart_length (gs : List (κ × List α)) :
    groupStart gs gs.length = (ungrouped gs).length := by
  rw [groupStart, List.take_length]

lemma groupStart_map (f : List α → List β) (hf : ∀ as, (f as).length = as.length)
    (gs : List (κ × List α)) : groupStart (gs.map (Prod.map id f)) = groupStart gs := by
  funext j
  induction j generalizing gs with
  | zero => rfl
  | succ j ih =>
    cases gs with
    | nil => rfl
    | cons g gs =>
      have hrest := ih gs
      simp only [groupStart, ungrouped] at hrest
      simp [groupStart, ungrouped, hf, hrest]

lemma slice_ungrouped {gs : List (κ × List α)} {j : Nat} (h : j < gs.length) :
    ((ungrouped gs).take (groupStart gs (j + 1))).drop (groupStart gs j) =
      gs[j].2.map (Prod.mk gs[j].1) := by
  have hsplit : ungrouped gs = ungrouped (gs.take (j + 1)) ++ ungrouped (gs.drop (j + 1)) := by
    rw [← ungrouped_append, List.take_append_drop]
  have htake : (ungrouped gs).take (groupStart gs (j + 1)) = ungrouped (gs.take (j + 1)) := by
    rw [hsplit]
    exact List.take_left
  rw [htake, ungrouped_take_succ h]
  exact List.drop_left

variable [DecidableEq κ]

lemma slice_snd {l : List (κ × α)} {j : Nat} (h : j < (grouped l).length) :
    ((l.map Prod.snd).take (groupStart (grouped l) (j + 1))).drop (groupStart (grouped l) j) =
      (grouped l)[j].2 := by
  have hslice := congrArg (List.map Prod.snd) (slice_ungrouped h)
  rw [ungrouped_grouped] at hslice
  simpa [Function.comp_def] using hslice

lemma getElem?_fst {l : List (κ × α)} {j i : Nat} (h : j < (grouped l).length)
    (hlo : groupStart (grouped l) j ≤ i) (hhi : i < groupStart (grouped l) (j + 1)) :
    (l.map Prod.fst)[i]? = some (grouped l)[j].1 := by
  have hslice := congrArg (fun s => s[i - groupStart (grouped l) j]?) (slice_ungrouped h)
  simp only [ungrouped_grouped, List.getElem?_drop, Nat.add_sub_cancel' hlo,
    List.getElem?_take_of_lt hhi] at hslice
  rw [groupStart_succ h] at hhi
  have hlt : i - groupStart (grouped l) j < (grouped l)[j].2.length := by omega
  rw [List.getElem?_map, hslice, List.getElem?_map, List.getElem?_eq_getElem hlt]
  rfl

lemma groupStart_lt {l : List (κ × α)} {j : Nat} (h : j < (grouped l).length) :
    groupStart (grouped l) j < groupStart (grouped l) (j + 1) := by
  have hpos := List.length_pos_iff.mpr (ne_nil_of_mem_grouped (List.getElem_mem h))
  rw [groupStart_succ h]
  omega

lemma runCuts_grouped (l : List (κ × α)) :
    RunCuts (l.map Prod.fst) (grouped l).length (groupStart (grouped l)) where
  cut_zero := rfl
  cut_last := by rw [groupStart_length, ungrouped_grouped, List.length_map]
  cut_lt _ := groupStart_lt
  same j hj i hlo hhi := by
    rw [getElem?_fst hj hlo hhi, getElem?_fst hj (Nat.le_refl _) (groupStart_lt hj)]
  differ j hj := by
    have hj' := Nat.lt_of_succ_lt hj
    rw [getElem?_fst hj' (Nat.le_refl _) (groupStart_lt hj'),
      getElem?_fst hj (Nat.le_refl _) (groupStart_lt hj)]
    intro he
    exact List.isChain_iff_getElem.mp (isChain_grouped l) j hj (Option.some.inj he)

lemma grouped_eq_nil_iff {l : List (κ × α)} : grouped l = [] ↔ l = [] := by
  constructor
  · intro h
    rw [← ungrouped_grouped l, h]
    rfl
  · rintro rfl
    rfl

def keyRuns (keys : List κ) : List (κ × List Unit) := grouped (keys.map fun k => (k, ()))

lemma keyRuns_fst (l : List (κ × α)) :
    keyRuns (l.map Prod.fst) = (grouped l).map (Prod.map id (List.map fun _ => ())) := by
  rw [keyRuns, ← grouped_map, List.map_map]
  rfl

lemma runCuts_keyRuns (keys : List κ) :
    RunCuts keys (keyRuns keys).length (groupStart (keyRuns keys)) := by
  have h := runCuts_grouped (keys.map fun k => (k, ()))
  rw [List.map_map, Function.comp_def, List.map_id'] at h
  exact h

end Cuts

variable {α : Type} [Number α] {r : Resampler} {timestamps : List Timestamp} {values : List α}

lemma exists_resample_iff (hlen : timestamps.length = values.length) :
    (∃ out, r.resample timestamps values = .ok out) ↔
      (∀ t ∈ timestamps, ∃ p, r.key t = .ok p) ∧
        (r.config.method = .mean → ∀ g ∈ grouped (keyed r.key (timestamps.zip values)),
          ∃ n : α, Number.ofNat? g.2.length = some n) := by
  have hkey : (∀ t ∈ timestamps, ∃ p, r.key t = .ok p) ↔
      ∀ g ∈ grouped (keyed r.key (timestamps.zip values)), ∃ p, g.1 = .ok p := by
    have hts : (∀ k ∈ timestamps.map r.key, ∃ p, k = .ok p) ↔
        ∀ t ∈ timestamps, ∃ p, r.key t = .ok p := List.forall_mem_map
    have hgs :
        (∀ k ∈ (grouped (keyed r.key (timestamps.zip values))).map Prod.fst, ∃ p, k = .ok p) ↔
        ∀ g ∈ grouped (keyed r.key (timestamps.zip values)), ∃ p, g.1 = .ok p := List.forall_mem_map
    rw [← hts, ← hgs, ← keyed_fst r.key hlen]
    simp only [mem_map_fst_grouped_iff]
  have hrun (g) (hg : g ∈ grouped (keyed r.key (timestamps.zip values))) :
      (∃ a, r.config.method.run g.2 = .ok a) ↔
        (r.config.method = .mean → ∃ n : α, Number.ofNat? g.2.length = some n) :=
    Aggregation.exists_run_iff (ne_nil_of_mem_grouped hg)
  constructor
  · rintro ⟨out, hout⟩
    obtain ⟨-, rows, hrows, -⟩ := resample_eq_ok_iff.mp hout
    have h := exists_rows_iff.mp ⟨rows, hrows⟩
    exact ⟨hkey.mpr fun g hg => (h g hg).1, fun hm g hg => (hrun g hg).mp (h g hg).2 hm⟩
  · rintro ⟨hk, hm⟩
    obtain ⟨rows, hrows⟩ := exists_rows_iff.mpr fun g hg =>
      ⟨hkey.mp hk g hg, (hrun g hg).mpr fun hmean => hm hmean g hg⟩
    exact ⟨_, resample_eq_ok_iff.mpr ⟨hlen, rows, hrows, rfl⟩⟩

end Columnar.Resampler
