import Columnar.Proofs.Calendar.Periods
import Columnar.Proofs.Resampling.Aggregates
import Columnar.Proofs.Resampling.Runs

/-! Resampling the rows of finer periods. The groups by the coarser key are the groups of the finer
groups, and their aggregates are the aggregates of the finer aggregates. -/

namespace Columnar.Resampler

section Groups

variable {κ μ α β : Type} [DecidableEq κ] [DecidableEq μ]

lemma grouped_attach (f : κ → μ) (k : κ) (as : List α) (gs : List (κ × List α)) :
    (grouped ((attach k as gs).map (Prod.map f id))).map (Prod.map id List.flatten) =
      attach (f k) as ((grouped (gs.map (Prod.map f id))).map (Prod.map id List.flatten)) := by
  have hflatten (ass bss : List (List α)) : (ass ++ bss).flatten = ass.flatten ++ bss.flatten :=
    List.flatten_append
  cases gs with
  | nil => simp [attach, grouped]
  | cons g gs =>
    obtain ⟨l, bs⟩ := g
    by_cases he : l = k
    · subst he
      rw [attach, if_pos rfl]
      simp only [List.map_cons, Prod.map, id_eq, grouped, map_attach hflatten, attach_attach,
        List.flatten_cons, List.flatten_nil, List.append_nil]
    · rw [attach, if_neg he]
      simp only [List.map_cons, Prod.map, id_eq, grouped, map_attach hflatten,
        List.flatten_cons, List.flatten_nil, List.append_nil]

lemma grouped_grouped (f : κ → μ) (l : List (κ × α)) :
    (grouped ((grouped l).map (Prod.map f id))).map (Prod.map id List.flatten) =
      grouped (l.map (Prod.map f id)) := by
  induction l with
  | nil => rfl
  | cons x rest ih => rw [grouped, grouped_attach, ih, List.map_cons, Prod.map, grouped, id_eq]

lemma flatten_grouped (l : List (κ × α)) : ((grouped l).map Prod.snd).flatten = l.map Prod.snd := by
  have h := congrArg (List.map Prod.snd) (ungrouped_grouped l)
  rw [← h, ungrouped, List.map_flatMap, List.flatMap]
  simp [Function.comp_def]

variable {R : α → β → Prop}

lemma forall₂_grouped {xs : List (κ × α)} {ys : List (κ × β)}
    (h : List.Forall₂ (fun x y => x.1 = y.1 ∧ R x.2 y.2) xs ys) :
    List.Forall₂ (fun g h => g.1 = h.1 ∧ List.Forall₂ R g.2 h.2) (grouped xs) (grouped ys) := by
  induction h with
  | nil => exact .nil
  | cons hhead _ ih =>
    simp only [grouped, hhead.1]
    exact forall₂_attach (R := List.Forall₂ R) (fun has hbs => List.rel_append has hbs)
      _ (.cons hhead.2 .nil) ih

end Groups

section Loop

variable {ι κ μ α : Type} {fine : ι → Result κ} {coarse : κ → Result μ} {direct : ι → Result μ}
  {aggregate : List α → Result α}

lemma forall₂_isRow_congr {gs hs : List (Result κ × List α)}
    (h : List.Forall₂ (fun g h => g.1 = h.1 ∧ aggregate g.2 = aggregate h.2) gs hs)
    {rows : List (κ × α)} :
    List.Forall₂ (IsRow aggregate) gs rows ↔ List.Forall₂ (IsRow aggregate) hs rows := by
  induction h generalizing rows with
  | nil => rfl
  | cons hhead _ ih => simp only [forall₂_isRow_cons_iff, hhead.1, hhead.2, ih]

variable [DecidableEq κ] {xs : List (ι × α)} {rows : List (κ × α)}

lemma keyed_direct (hnested : ∀ i k, fine i = .ok k → coarse k = direct i)
    (h : runs fine aggregate xs = .ok rows) :
    keyed direct xs = (keyed fine xs).map (Prod.map (· >>= coarse) id) := by
  rw [keyed, keyed, List.map_map]
  refine List.map_congr_left fun x hx => ?_
  have hmem : fine x.1 ∈ (keyed fine xs).map Prod.fst := by
    rw [keyed, List.map_map]
    exact List.mem_map_of_mem hx
  obtain ⟨k, -, hk⟩ := (mem_keys_iff (runs_eq_ok_iff.mp h)).mp hmem
  have hbind : (fine x.1 >>= coarse) = coarse k := by
    rw [← hk]
    rfl
  exact Prod.ext ((hnested x.1 k hk.symm).symm.trans hbind.symm) rfl

lemma forall₂_ne_nil (h : runs fine aggregate xs = .ok rows) :
    List.Forall₂ (fun g row => g.2 ≠ [] ∧ IsRow aggregate g row) (grouped (keyed fine xs)) rows :=
  (List.forall₂_and_left _ _).mpr ⟨fun _ => ne_nil_of_mem_grouped, runs_eq_ok_iff.mp h⟩

theorem runs_runs [DecidableEq μ] (hnested : ∀ i k, fine i = .ok k → coarse k = direct i)
    (hflatten : ∀ ass bs, List.Forall₂ (fun as b => as ≠ [] ∧ aggregate as = .ok b) ass bs →
      aggregate ass.flatten = aggregate bs)
    (h : runs fine aggregate xs = .ok rows) {out : List (μ × α)} :
    runs coarse aggregate rows = .ok out ↔ runs direct aggregate xs = .ok out := by
  have hrows : List.Forall₂ (fun x y => x.1 = y.1 ∧ x.2 ≠ [] ∧ aggregate x.2 = .ok y.2)
      ((grouped (keyed fine xs)).map (Prod.map (· >>= coarse) id)) (keyed coarse rows) := by
    have hkeyed : keyed coarse rows = rows.map (Prod.map coarse id) := rfl
    rw [hkeyed, List.forall₂_map_left_iff, List.forall₂_map_right_iff]
    refine (forall₂_ne_nil h).imp fun g row hg => ?_
    obtain ⟨hne, hkey, hrun⟩ := hg
    refine ⟨?_, hne, hrun⟩
    simp only [Prod.map, hkey]
    rfl
  -- the rows fall into groups in the same way as the groups that they come from
  have hgroups := forall₂_grouped (R := fun as b => as ≠ [] ∧ aggregate as = .ok b) hrows
  rw [runs_eq_ok_iff, runs_eq_ok_iff, keyed_direct hnested h, ← grouped_grouped]
  refine (forall₂_isRow_congr ?_).symm
  rw [List.forall₂_map_left_iff]
  exact hgroups.imp fun _ _ hg => ⟨hg.1, hflatten _ _ hg.2⟩

end Loop

def withFrequency (r : Resampler) (f : Frequency) : Resampler where
  config := { r.config with frequency := f }
  valid := r.valid

lemma eq_of_ok_iff {γ : Type} {x y : Result γ} {e : Error} (h : ∀ c, x = .ok c ↔ y = .ok c)
    (hx : ∀ d, x = .error d → d = e) (hy : ∀ d, y = .error d → d = e) : x = y := by
  cases x with
  | ok c => exact ((h c).mp rfl).symm
  | error d =>
    cases y with
    | ok c => exact (h c).mpr rfl
    | error d' => rw [hx d rfl, hy d' rfl]

variable {α : Type} [Number α] {r : Resampler}

lemma runs_overflow (hmethod : r.config.method ≠ .mean) {xs : List (Timestamp × α)} {e : Error}
    (h : runs r.key r.config.method.run xs = .error e) : e = .overflow "timestamp" := by
  rcases runs_error h with ⟨t, hkey⟩ | ⟨as, hne, hrun⟩
  · exact Frequency.periodStart_error hkey
  · obtain ⟨a, ha⟩ := (Aggregation.exists_run_iff hne).mpr fun hm => absurd hm hmethod
    rw [ha] at hrun
    cases hrun

lemma resample_overflow (hmethod : r.config.method ≠ .mean) {timestamps : List Timestamp}
    {values : List α} (hlen : timestamps.length = values.length) {e : Error}
    (h : r.resample timestamps values = .error e) : e = .overflow "timestamp" := by
  rw [resample_eq_map hlen] at h
  cases hruns : runs r.key r.config.method.run (timestamps.zip values) with
  | ok rows =>
    rw [hruns] at h
    cases h
  | error d =>
    rw [hruns] at h
    cases h
    exact runs_overflow hmethod hruns

theorem resample_resample {t : IntegerType} {r : Resampler} {timestamps : List Timestamp}
    {values : List (Fixed t)} {out : Resampled (Fixed t)} (hmethod : r.config.method ≠ .mean)
    (hout : r.resample timestamps values = .ok out) :
    (∀ coarse, (r.config.frequency, coarse) ∈ Frequency.nestings →
      (r.withFrequency coarse).resample out.period.data out.value.data =
        (r.withFrequency coarse).resample timestamps values ∧
      ∀ e, (r.withFrequency coarse).resample timestamps values = .error e →
        e = .overflow "timestamp") ∧
    (values ≠ [] → ∃ a, r.config.method.run values = .ok a ∧
      r.config.method.run out.value.data = .ok a) := by
  obtain ⟨hlen, rows, hrows, rfl⟩ := resample_eq_ok_iff.mp hout
  have hruns := runs_eq_ok_iff.mpr hrows
  constructor
  · intro coarse hpair
    have hmethod' : (r.withFrequency coarse).config.method ≠ .mean := hmethod
    have hnested (t p : Timestamp) (h : r.key t = .ok p) :
        (r.withFrequency coarse).key p = (r.withFrequency coarse).key t :=
      Frequency.periodStart_periodStart (Frequency.refines_iff.mpr (.inr hpair)) h
    have hcoarse : runs (r.withFrequency coarse).key r.config.method.run rows =
        runs (r.withFrequency coarse).key r.config.method.run (timestamps.zip values) :=
      eq_of_ok_iff (fun _ => runs_runs hnested (fun _ _ => Aggregation.run_flatten hmethod) hruns)
        (fun _ => runs_overflow hmethod') (fun _ => runs_overflow hmethod')
    refine ⟨?_, fun e => resample_overflow hmethod' hlen⟩
    have hzip := Resampled.rows_ofRows rows
    rw [Resampled.rows] at hzip
    rw [resample_eq_map hlen, resample_eq_map (by simp), hzip]
    exact congrArg (Except.map Resampled.ofRows) hcoarse
  · intro hne
    obtain ⟨a, ha⟩ := (Aggregation.exists_run_iff hne).mpr fun hm => absurd hm hmethod
    refine ⟨a, ha, ?_⟩
    have hpieces : List.Forall₂ (fun as b => as ≠ [] ∧ r.config.method.run as = .ok b)
        ((grouped (keyed r.key (timestamps.zip values))).map Prod.snd) (rows.map Prod.snd) := by
      rw [List.forall₂_map_left_iff, List.forall₂_map_right_iff]
      exact (forall₂_ne_nil hruns).imp fun _ _ hg => ⟨hg.1, hg.2.2⟩
    have hflatten := Aggregation.run_flatten hmethod hpieces
    rw [flatten_grouped, keyed_snd r.key hlen, ha] at hflatten
    exact hflatten.symm

theorem resample_resample_out_of_order :
    ∃ (timestamps : List Timestamp) (values : List (Fixed .int8)) (out : Resampled (Fixed .int8)),
      timestamps.map Timestamp.millis = [0, 86400000, -1] ∧ values.map Fixed.val = [100, 100, 1] ∧
        (universal .daily .sum).resample timestamps values = .ok out ∧
        ((universal .daily .sum).withFrequency .weekly).resample out.period.data out.value.data =
          ((universal .daily .sum).withFrequency .weekly).resample timestamps values ∧
        Aggregation.sum.run out.value.data = .ok ⟨-55, by decide⟩ := by
  obtain ⟨out, hout⟩ : ∃ out, (universal .daily .sum).resample
      [⟨⟨0, by decide⟩⟩, ⟨⟨86400000, by decide⟩⟩, ⟨⟨-1, by decide⟩⟩]
      [(⟨100, by decide⟩ : Fixed .int8), ⟨100, by decide⟩, ⟨1, by decide⟩] = .ok out := ⟨_, rfl⟩
  have h := resample_resample (by decide) hout
  obtain ⟨a, ha, hsum⟩ := h.2 (List.cons_ne_nil _ _)
  exact ⟨_, _, out, rfl, rfl, hout, (h.1 .weekly (by decide)).1, hsum.trans (ha.symm.trans rfl)⟩

end Columnar.Resampler
