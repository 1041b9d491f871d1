import Columnar.Proofs.Calendar.Periods
import Columnar.Proofs.Resampling.Runs
import Mathlib.Data.List.Nodup

/-! In chronological order no period opens twice, so that each row has all values of its period. -/

namespace Columnar.Resampler

section Groups

variable {κ α : Type} [DecidableEq κ]

lemma filter_ungrouped {gs : List (κ × List α)} (hgs : (gs.map Prod.fst).Nodup) {g : κ × List α}
    (hg : g ∈ gs) : ((ungrouped gs).filter fun x => x.1 = g.1).map Prod.snd = g.2 := by
  induction gs with
  | nil => cases hg
  | cons h gs ih =>
    rw [List.map_cons, List.nodup_cons] at hgs
    obtain ⟨hnot, hgs⟩ := hgs
    have hhead (k : κ) : ((h.2.map (Prod.mk h.1)).filter fun x => x.1 = k).map Prod.snd =
        if h.1 = k then h.2 else [] := by
      split
      case isTrue he => simp [List.filter_map, Function.comp_def, he]
      case isFalse hne => simp [List.filter_map, Function.comp_def, hne]
    have hcons : ungrouped (h :: gs) = h.2.map (Prod.mk h.1) ++ ungrouped gs := List.flatMap_cons
    rw [hcons, List.filter_append, List.map_append, hhead]
    rcases List.mem_cons.mp hg with rfl | hg
    · have htail : (ungrouped gs).filter (fun x => decide (x.1 = g.1)) = [] := by
        rw [List.filter_eq_nil_iff]
        intro x hx he
        rw [ungrouped, List.mem_flatMap] at hx
        obtain ⟨i, hi, hx⟩ := hx
        obtain ⟨a, -, rfl⟩ := List.mem_map.mp hx
        exact hnot (of_decide_eq_true he ▸ List.mem_map_of_mem hi)
      rw [if_pos rfl, htail, List.map_nil, List.append_nil]
    · have hne : h.1 ≠ g.1 := fun he => hnot (he ▸ List.mem_map_of_mem hg)
      rw [if_neg hne, List.nil_append, ih hgs hg]

end Groups

section Rows

variable {α β : Type} {aggregate : List α → Result β} {rows : List (Timestamp × β)}

lemma exists_group_of_mem {κ : Type} {gs : List (Result κ × List α)} {rows : List (κ × β)}
    (h : List.Forall₂ (IsRow aggregate) gs rows) {row : κ × β} (hrow : row ∈ rows) :
    ∃ g ∈ gs, IsRow aggregate g row := by
  induction h with
  | nil => cases hrow
  | cons hhead _ ih =>
    rcases List.mem_cons.mp hrow with rfl | hrow
    · exact ⟨_, List.mem_cons_self, hhead⟩
    · obtain ⟨g, hg, hrow⟩ := ih hrow
      exact ⟨g, List.mem_cons_of_mem _ hg, hrow⟩

lemma pairwise_key (r : Resampler) {timestamps : List Timestamp}
    (h : timestamps.Pairwise fun s t => s.millis ≤ t.millis) :
    (timestamps.map r.key).Pairwise
      fun x y => ∀ p q, x = .ok p → y = .ok q → p.millis ≤ q.millis := by
  rw [List.pairwise_map]
  exact h.imp fun hle p q hp hq => Frequency.periodStart_mono hp hq hle

lemma pairwise_periods {l : List (Result Timestamp × α)}
    (hl : (l.map Prod.fst).Pairwise fun x y => ∀ p q, x = .ok p → y = .ok q → p.millis ≤ q.millis)
    (h : List.Forall₂ (IsRow aggregate) (grouped l) rows) :
    (rows.map Prod.fst).Pairwise fun p q => p.millis < q.millis := by
  have hkeys := hl.sublist (map_fst_grouped_sublist l)
  rw [map_fst_of_isRow h, List.pairwise_map] at hkeys
  have hle : (rows.map Prod.fst).Pairwise fun p q => p.millis ≤ q.millis :=
    hkeys.imp fun hpq => hpq _ _ rfl rfl
  -- neighbours differ, which in this order keeps all others apart too
  have hlt : (rows.map Prod.fst).IsChain fun p q => p.millis < q.millis := by
    have hne := List.isChain_iff_getElem.mp (isChain_periods h)
    rw [List.isChain_iff_getElem]
    intro i hi
    have hi' := List.pairwise_iff_getElem.mp hle i (i + 1) (by omega) hi (by omega)
    exact lt_of_le_of_ne hi' fun he => hne i hi (Timestamp.ext_millis he)
  have htrans : IsTrans Timestamp fun p q => p.millis < q.millis := ⟨fun _ _ _ => Int.lt_trans⟩
  exact List.isChain_iff_pairwise.mp hlt

end Rows

variable {α : Type} [Number α] {r : Resampler} {timestamps : List Timestamp} {values : List α}
  {out : Resampled α}

theorem resample_chronological (hsorted : timestamps.Pairwise fun s t => s.millis ≤ t.millis)
    (hout : r.resample timestamps values = .ok out) :
    (out.period.data.Pairwise fun p q => p.millis < q.millis) ∧
      out.period.data.length = out.value.data.length ∧
      (∀ t ∈ timestamps, ∃ p ∈ out.period.data, r.key t = .ok p) ∧
      ∀ p a, (p, a) ∈ out.rows → (∃ t ∈ timestamps, r.key t = .ok p) ∧
        r.config.method.run
          (((timestamps.zip values).filter fun x => r.key x.1 = .ok p).map Prod.snd) = .ok a := by
  obtain ⟨hlen, rows, hrows, rfl⟩ := resample_eq_ok_iff.mp hout
  have hkeys := keyed_fst r.key hlen
  have hincreasing : (rows.map Prod.fst).Pairwise fun p q => p.millis < q.millis :=
    pairwise_periods (hkeys ▸ pairwise_key r hsorted) hrows
  refine ⟨hincreasing, ?_, ?_, ?_⟩
  · simp
  · intro t ht
    obtain ⟨p, hp, hkey⟩ := (mem_keys_iff hrows).mp (hkeys ▸ List.mem_map_of_mem ht)
    exact ⟨p, hp, hkey.symm⟩
  · intro p a hrow
    rw [Resampled.rows_ofRows] at hrow
    constructor
    · have hmem := (mem_keys_iff hrows).mpr ⟨p, List.mem_map_of_mem hrow, rfl⟩
      rw [hkeys] at hmem
      exact List.mem_map.mp hmem
    · obtain ⟨g, hg, hkey, hrun⟩ := exists_group_of_mem hrows hrow
      have hnodup : ((grouped (keyed r.key (timestamps.zip values))).map Prod.fst).Nodup := by
        have hne : (rows.map Prod.fst).Nodup := by
          apply hincreasing.imp
          intro p q hlt he
          subst he
          exact Int.lt_irrefl _ hlt
        rw [map_fst_of_isRow hrows]
        exact hne.map fun _ _ => Except.ok.inj
      have hfilter := filter_ungrouped hnodup hg
      rw [ungrouped_grouped, keyed, List.filter_map, List.map_map, hkey] at hfilter
      exact (congrArg _ hfilter).trans hrun

theorem resample_chronological_around_epoch :
    ∃ (timestamps : List Timestamp) (values : List (Fixed .int8)) (out : Resampled (Fixed .int8)),
      timestamps.map Timestamp.millis = [-1, 0, 259200000] ∧ values.map Fixed.val = [100, 100, 1] ∧
        (universal .weekly .sum).resample timestamps values = .ok out ∧
        (out.period.data.Pairwise fun p q => p.millis < q.millis) ∧
        out.period.data.map Timestamp.millis = [-345600000, 259200000] ∧
        out.value.data.map Fixed.val = [-56, 1] := by
  have hout : (universal .weekly .sum).resample
      [⟨⟨-1, by decide⟩⟩, ⟨⟨0, by decide⟩⟩, ⟨⟨259200000, by decide⟩⟩]
      [(⟨100, by decide⟩ : Fixed .int8), ⟨100, by decide⟩, ⟨1, by decide⟩] =
        .ok (.ofRows [(⟨⟨-345600000, by decide⟩⟩, ⟨-56, by decide⟩),
          (⟨⟨259200000, by decide⟩⟩, ⟨1, by decide⟩)]) := rfl
  exact ⟨_, _, _, rfl, rfl, hout, (resample_chronological (by decide) hout).1, rfl, rfl⟩

end Columnar.Resampler
