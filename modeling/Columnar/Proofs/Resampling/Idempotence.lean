import Columnar.Proofs.Calendar.Periods
import Columnar.Proofs.Resampling.Aggregates
import Columnar.Proofs.Resampling.Runs

namespace Columnar.Resampler

section Groups

variable {ι κ α : Type} [DecidableEq κ]

lemma grouped_of_isChain {l : List (κ × α)} (h : (l.map Prod.fst).IsChain (· ≠ ·)) :
    grouped l = l.map fun x => (x.1, [x.2]) := by
  induction l with
  | nil => rfl
  | cons x rest ih =>
    rw [List.map_cons, List.isChain_cons] at h
    obtain ⟨hhead, htail⟩ := h
    rw [grouped, ih htail]
    cases rest with
    | nil => rfl
    | cons y rest =>
      have hne : y.1 ≠ x.1 := (hhead y.1 rfl).symm
      rw [List.map_cons, attach, if_neg hne, List.map_cons, List.map_cons]

lemma runs_eq_self {key : κ → Result κ} {aggregate : List α → Result α} {rows : List (κ × α)}
    (hkey : ∀ row ∈ rows, key row.1 = .ok row.1) (hchain : (rows.map Prod.fst).IsChain (· ≠ ·))
    (haggregate : ∀ a, aggregate [a] = .ok a) : runs key aggregate rows = .ok rows := by
  have hkeyed : keyed key rows = rows.map (Prod.map .ok id) := by
    apply List.map_congr_left
    intro row hrow
    rw [Prod.map, hkey row hrow, Prod.map]
  have hkeys : ((keyed key rows).map Prod.fst).IsChain (· ≠ ·) := by
    have hfst : (keyed key rows).map Prod.fst = (rows.map Prod.fst).map .ok := by
      rw [hkeyed, List.map_map, List.map_map]
      rfl
    rw [hfst, List.isChain_map]
    exact hchain.imp fun _ _ hne he => hne (Except.ok.inj he)
  rw [runs_eq_ok_iff, grouped_of_isChain hkeys, hkeyed, List.map_map, List.forall₂_map_left_iff,
    List.forall₂_same]
  intro row _
  exact ⟨rfl, haggregate row.2⟩

end Groups

variable {t : IntegerType} {r : Resampler} {timestamps : List Timestamp} {values : List (Fixed t)}
  {out : Resampled (Fixed t)}

lemma key_key {t p : Timestamp} (h : r.key t = .ok p) : r.key p = .ok p :=
  (Frequency.periodStart_periodStart (Frequency.refines_iff.mpr (.inl rfl)) h).trans h

theorem resample_idempotent (hout : r.resample timestamps values = .ok out) :
    r.resample out.period.data out.value.data = .ok out := by
  obtain ⟨-, rows, hrows, rfl⟩ := resample_eq_ok_iff.mp hout
  have hkey : ∀ row ∈ rows, r.key row.1 = .ok row.1 := by
    intro row hrow
    have hmem := (mem_keys_iff hrows).mpr ⟨row.1, List.mem_map_of_mem hrow, rfl⟩
    rw [keyed, List.map_map, List.mem_map] at hmem
    obtain ⟨x, -, hx⟩ := hmem
    exact key_key hx
  have hruns :=
    runs_eq_self hkey (isChain_periods hrows) (Aggregation.run_singleton r.config.method)
  rw [Resampled.period_ofRows, Resampled.value_ofRows, resample_rows, hruns]
  rfl

theorem resample_idempotent_reopened :
    ∃ (timestamps : List Timestamp) (values : List (Fixed .int8)) (out : Resampled (Fixed .int8)),
      timestamps.map Timestamp.millis = [3600000, -1, 0, 1] ∧
      values.map Fixed.val = [1, -128, 100, 26] ∧
        (universal .daily .mean).resample timestamps values = .ok out ∧
        out.period.data.map Timestamp.millis = [0, -86400000, 0] ∧
        out.value.data.map Fixed.val = [1, -128, 63] ∧
        (universal .daily .mean).resample out.period.data out.value.data = .ok out := by
  have hout : (universal .daily .mean).resample
      [⟨⟨3600000, by decide⟩⟩, ⟨⟨-1, by decide⟩⟩, ⟨⟨0, by decide⟩⟩, ⟨⟨1, by decide⟩⟩]
      [(⟨1, by decide⟩ : Fixed .int8), ⟨-128, by decide⟩, ⟨100, by decide⟩, ⟨26, by decide⟩] =
        .ok (.ofRows [(⟨⟨0, by decide⟩⟩, ⟨1, by decide⟩),
          (⟨⟨-86400000, by decide⟩⟩, ⟨-128, by decide⟩), (⟨⟨0, by decide⟩⟩, ⟨63, by decide⟩)]) :=
          rfl
  exact ⟨_, _, _, rfl, rfl, hout, rfl, rfl, resample_idempotent hout⟩

end Columnar.Resampler
