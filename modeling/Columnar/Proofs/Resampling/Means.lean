import Columnar.Proofs.Kernel.Mean
import Columnar.Proofs.Resampling.Runs

namespace Columnar.Resampler

open Reduction

variable {t : IntegerType} {r : Resampler}

lemma isWrappedMean_of_rows (hmethod : r.config.method = .mean)
    {gs : List (Result Timestamp × List (Fixed t))}
    {rows : List (Timestamp × Fixed t)} (h : List.Forall₂ (IsRow r.config.method.run) gs rows) :
    List.Forall₂ (fun g m => IsWrappedMean g.2 m) gs (rows.map Prod.snd) := by
  rw [List.forall₂_map_right_iff]
  apply h.imp
  rintro g row ⟨-, hrun⟩
  rw [hmethod] at hrun
  exact isWrappedMean_of_mean hrun

/-- There is a mean exactly if there are values and their number is of the type. It is exact, and
then between the least and the greatest value, exactly if the sum is of the type too. -/
theorem mean_exact_iff_sum_fits (t : IntegerType) :
    (∀ as : List (Fixed t), ((∃ m, mean as = .ok m) ↔ as ≠ [] ∧ t.Fits as.length) ∧
      ∀ m, mean as = .ok m → IsWrappedMean as m) ∧
    ∀ (r : Resampler) (timestamps : List Timestamp) (values : List (Fixed t))
      (out : Resampled (Fixed t)),
      r.config.method = .mean → r.resample timestamps values = .ok out →
        List.Forall₂ (fun g m => IsWrappedMean g.2 m)
          (grouped (keyed r.key (timestamps.zip values))) out.value.data := by
  constructor
  · intro as
    exact ⟨exists_mean_iff, fun m => isWrappedMean_of_mean⟩
  · intro r timestamps values out hmethod hout
    obtain ⟨-, rows, hrows, rfl⟩ := resample_eq_ok_iff.mp hout
    exact isWrappedMean_of_rows hmethod hrows

theorem mean_exact_iff_sum_fits_int8 :
    ∃ (timestamps : List Timestamp) (as : List (Fixed .int8)) (m : Fixed .int8)
      (out : Resampled (Fixed .int8)),
      as.map Fixed.val = [100, 26] ∧ mean as = .ok m ∧ m.val = (Fixed.exactSum as).tdiv as.length ∧
        (universal .daily .mean).resample timestamps as = .ok out ∧
        List.Forall₂ (fun g m => IsWrappedMean g.2 m)
          (grouped (keyed (universal .daily .mean).key (timestamps.zip as))) out.value.data := by
  obtain ⟨hmean, hresample⟩ := mean_exact_iff_sum_fits .int8
  obtain ⟨out, hout⟩ : ∃ out, (universal .daily .mean).resample [⟨⟨0, by decide⟩⟩, ⟨⟨0, by decide⟩⟩]
      [(⟨100, by decide⟩ : Fixed .int8), ⟨26, by decide⟩] = .ok out := ⟨_, rfl⟩
  obtain ⟨-, hexact⟩ := hmean [⟨100, by decide⟩, ⟨26, by decide⟩]
  refine ⟨_, _, ⟨63, by decide⟩, out, rfl, rfl, ?_, hout, hresample _ _ _ out rfl hout⟩
  exact (hexact _ rfl).exact_iff.mpr (by decide)

theorem mean_below_least :
    ∃ (timestamps : List Timestamp) (as : List (Fixed .int8)) (m : Fixed .int8)
      (out : Resampled (Fixed .int8)),
      timestamps.map Timestamp.millis = [0, 0] ∧ as.map Fixed.val = [100, 100] ∧
        Fixed.exactSum as = 100 * as.length ∧ mean as = .ok m ∧ m.val = -28 ∧
        (universal .daily .mean).resample timestamps as = .ok out ∧ out.value.data = [m] := by
  obtain ⟨out, hout, hdata⟩ :
      ∃ out, (universal .daily .mean).resample [⟨⟨0, by decide⟩⟩, ⟨⟨0, by decide⟩⟩]
        [(⟨100, by decide⟩ : Fixed .int8), ⟨100, by decide⟩] = .ok out ∧
          out.value.data = [⟨-28, by decide⟩] := ⟨_, rfl, rfl⟩
  exact ⟨_, _, ⟨-28, by decide⟩, out, rfl, rfl, rfl, rfl, rfl, hout, hdata⟩

end Columnar.Resampler
