import Columnar.Kernel.Comparison
import Columnar.Proofs.Kernel.Elementwise
import Columnar.Proofs.Missing.Sentinel
import Mathlib.Data.List.Zip
import Mathlib.Order.Compare

namespace Columnar

open Ordered

structure LinearUnless (α : Type) [Ordered α] (isMissing : α → Bool) : Prop where
  order?_swap (a b : α) : order? b a = (order? a b).map Ordering.swap
  order?_eq_none_iff (a b : α) : order? a b = none ↔ isMissing a ∨ isMissing b
  beq_iff (a b : α) : a == b ↔ order? a b = some .eq

lemma linear_fixed (t : IntegerType) : LinearUnless (Fixed t) fun _ => false where
  order?_swap a b := congrArg some (Int.compare_swap a.val b.val).symm
  order?_eq_none_iff a b := by
    change some (compare a.val b.val) = none ↔ _
    simp
  beq_iff a b := by
    change a == b ↔ some (compare a.val b.val) = some .eq
    rw [beq_iff_eq, Fixed.ext_iff, Option.some_inj, Int.compare_eq_eq]

section Marked

variable {α : Type} [Number α] {m : Marker} {x y : Marked m α}

lemma order?_of_missing (h : x.isMissing ∨ y.isMissing) : order? x y = none :=
  if_pos (Bool.or_eq_true_iff.mpr h)

lemma order?_of_present (h : ¬(x.isMissing ∨ y.isMissing)) : order? x y = order? x.raw y.raw :=
  if_neg (mt Bool.or_eq_true_iff.mp h)

lemma linear_marked (h : LinearUnless α fun _ => false) (m : Marker) :
    LinearUnless (Marked m α) Marked.isMissing where
  order?_swap x y := by
    by_cases hmissing : x.isMissing ∨ y.isMissing
    · rw [order?_of_missing hmissing, order?_of_missing hmissing.symm]
      rfl
    · rw [order?_of_present hmissing, order?_of_present (mt Or.symm hmissing),
        h.order?_swap x.raw y.raw]
  order?_eq_none_iff x y := by
    by_cases hmissing : x.isMissing ∨ y.isMissing
    · exact iff_of_true (order?_of_missing hmissing) hmissing
    · rw [order?_of_present hmissing, h.order?_eq_none_iff]
      exact iff_of_false (by simp) hmissing
  beq_iff x y := by
    rw [Marked.beq_iff, ← and_assoc, ← not_or]
    by_cases hmissing : x.isMissing ∨ y.isMissing
    · rw [order?_of_missing hmissing]
      exact iff_of_false (fun hpresent => hpresent.1 hmissing) nofun
    · rw [order?_of_present hmissing, and_iff_right hmissing, h.beq_iff]

end Marked

namespace LinearUnless

variable {α : Type} [Ordered α] {isMissing : α → Bool} (h : LinearUnless α isMissing)

include h

lemma beq_eq (a b : α) : (a == b) = (order? a b == some .eq) := by
  rw [Bool.eq_iff_iff, h.beq_iff, beq_iff_eq]

lemma less_eq_greater (a b : α) : less a b = greater b a := by
  rw [less, greater, h.order?_swap a b]
  cases order? a b with
  | none => rfl
  | some o => cases o <;> rfl

lemma beq_comm (a b : α) : (a == b) = (b == a) := by
  rw [h.beq_eq, h.beq_eq, h.order?_swap a b]
  cases order? a b with
  | none => rfl
  | some o => cases o <;> rfl

lemma sum_holds (a b : α) :
    (less a b).toNat + (greater a b).toNat + (a == b).toNat =
      if isMissing a || isMissing b then 0 else 1 := by
  have hmissing := h.order?_eq_none_iff a b
  rw [less, greater, h.beq_eq]
  cases horder : order? a b with
  | none =>
    rw [if_pos (by simpa [horder] using hmissing)]
    rfl
  | some o =>
    rw [if_neg (by simpa [horder] using hmissing)]
    cases o <;> rfl

end LinearUnless

namespace Kernel

section Forms

variable {α : Type} [Ordered α] {c : Comparison} {as bs : List α} {b : α} {out : List Bool}

lemma compareInto_of_length_eq (hbs : as.length = bs.length) (hout : as.length = out.length) :
    compareInto c as bs out = ⟨.ok (), List.zipWith c.holds as bs⟩ := by
  rw [compareInto, checkOperands_of_eq hbs hout, fill_eq_zipWith c.holds hbs hout]
  rfl

lemma compareInto_of_rhs_ne (hbs : as.length ≠ bs.length) :
    compareInto c as bs out = ⟨.error (.lengthMismatch "rhs" as.length bs.length), out⟩ := by
  rw [compareInto, checkOperands_of_rhs_ne hbs]
  rfl

lemma compareInto_of_out_ne (hbs : as.length = bs.length) (hout : as.length ≠ out.length) :
    compareInto c as bs out = ⟨.error (.lengthMismatch "out" as.length out.length), out⟩ := by
  rw [compareInto, checkOperands_of_out_ne hbs hout]
  rfl

lemma compare_of_length_eq (hbs : as.length = bs.length) :
    compare c as bs = .ok (List.zipWith c.holds as bs) := by
  rw [compare, compareInto_of_length_eq hbs List.length_replicate.symm]
  rfl

lemma compare_of_length_ne (hbs : as.length ≠ bs.length) :
    compare c as bs = .error (.lengthMismatch "rhs" as.length bs.length) := by
  rw [compare, compareInto_of_rhs_ne hbs]
  rfl

lemma compare_replicate (c : Comparison) (as : List α) (b : α) :
    compare c as (List.replicate as.length b) = .ok (compareScalar c as b) := by
  rw [compare_of_length_eq List.length_replicate.symm, ← List.map_const', List.zipWith_map_right,
    List.zipWith_self]
  rfl

lemma compareScalarInto_of_length_eq (hout : as.length = out.length) :
    compareScalarInto c as b out = ⟨.ok (), compareScalar c as b⟩ := by
  rw [compareScalarInto, checkLength, if_pos hout.symm]
  rfl

lemma compareScalarInto_of_length_ne (hout : as.length ≠ out.length) :
    compareScalarInto c as b out = ⟨.error (.lengthMismatch "out" as.length out.length), out⟩ := by
  rw [compareScalarInto, checkLength, if_neg hout.symm]
  rfl

lemma map_zip_holds (c : Comparison) (as bs : List α) :
    (as.zip bs).map (fun (a, b) => c.holds a b) = List.zipWith c.holds as bs :=
  List.map_zip_eq_zipWith

lemma compareAll_eq (c : Comparison) (as bs : List α) :
    compareAll c as bs = (compare c as bs).map fun mask => mask.all id := by
  by_cases hbs : as.length = bs.length
  · rw [compareAll, checkLength, if_pos hbs.symm, compare_of_length_eq hbs,
      ← map_zip_holds, Except.map, List.all_map]
    rfl
  · rw [compareAll, checkLength, if_neg (Ne.symm hbs), compare_of_length_ne hbs]
    rfl

lemma compareAny_eq (c : Comparison) (as bs : List α) :
    compareAny c as bs = (compare c as bs).map fun mask => mask.any id := by
  by_cases hbs : as.length = bs.length
  · rw [compareAny, checkLength, if_pos hbs.symm, compare_of_length_eq hbs,
      ← map_zip_holds, Except.map, List.any_map]
    rfl
  · rw [compareAny, checkLength, if_neg (Ne.symm hbs), compare_of_length_ne hbs]
    rfl

end Forms

structure CoherentMasks {α : Type} [Ordered α] (isMissing : α → Bool) (as bs : List α) : Prop where
  exists_mask : as.length = bs.length → ∀ c, ∃ mask, compare c as bs = .ok mask ∧
    mask.length = as.length
  one_of_three : ∀ less greater equal, compare .less as bs = .ok less →
    compare .greater as bs = .ok greater →
    compare .equal as bs = .ok equal → ∀ (i : Nat) (a b : α), as[i]? = some a → bs[i]? = some b →
      ∃ l g e, less[i]? = some l ∧ greater[i]? = some g ∧ equal[i]? = some e ∧
        l.toNat + g.toNat + e.toNat ≤ 1 ∧
        (l.toNat + g.toNat + e.toNat = 1 ↔ ¬isMissing a ∧ ¬isMissing b)
  less_swap : as.length = bs.length → compare .less as bs = compare .greater bs as
  equal_swap : as.length = bs.length → compare .equal as bs = compare .equal bs as
  into : ∀ c out mask, compare c as bs = .ok mask → as.length = out.length →
    compareInto c as bs out = ⟨.ok (), mask⟩
  scalar : ∀ c b, compare c as (List.replicate as.length b) = .ok (compareScalar c as b)
  scalar_into : ∀ c b (out : List Bool), as.length = out.length →
    compareScalarInto c as b out = ⟨.ok (), compareScalar c as b⟩
  all : ∀ c mask, compare c as bs = .ok mask → compareAll c as bs = .ok (mask.all id)
  any : ∀ c mask, compare c as bs = .ok mask → compareAny c as bs = .ok (mask.any id)
  empty : as = [] → bs = [] → ∀ c, compareAll c as bs = .ok true ∧ compareAny c as bs = .ok false
  rhs_refused : as.length ≠ bs.length → ∀ c,
    let e := Error.lengthMismatch "rhs" as.length bs.length
    compare c as bs = .error e ∧ compareAll c as bs = .error e ∧ compareAny c as bs = .error e ∧
      ∀ out, compareInto c as bs out = ⟨.error e, out⟩
  out_refused : ∀ c (out : List Bool), as.length ≠ out.length →
    let e := Error.lengthMismatch "out" as.length out.length
    (as.length = bs.length → compareInto c as bs out = ⟨.error e, out⟩) ∧
      ∀ b, compareScalarInto c as b out = ⟨.error e, out⟩

section Masks

variable {α : Type} [Ordered α] {isMissing : α → Bool} {as bs : List α}

lemma eq_zipWith_of_compare {c : Comparison} {mask : List Bool} (h : compare c as bs = .ok mask) :
    as.length = bs.length ∧ mask = List.zipWith c.holds as bs := by
  by_cases hbs : as.length = bs.length
  · rw [compare_of_length_eq hbs] at h
    exact ⟨hbs, (Except.ok.inj h).symm⟩
  · rw [compare_of_length_ne hbs] at h
    cases h

lemma coherentMasks (h : LinearUnless α isMissing) (as bs : List α) :
    CoherentMasks isMissing as bs where
  exists_mask hbs c := ⟨_, compare_of_length_eq hbs, by simp [hbs]⟩
  one_of_three less greater equal hless hgreater hequal i a b ha hb := by
    obtain ⟨-, rfl⟩ := eq_zipWith_of_compare hless
    obtain ⟨-, rfl⟩ := eq_zipWith_of_compare hgreater
    obtain ⟨-, rfl⟩ := eq_zipWith_of_compare hequal
    have hread (c : Comparison) : (List.zipWith c.holds as bs)[i]? = some (c.holds a b) := by
      simp only [List.getElem?_zipWith, ha, hb]
    refine ⟨_, _, _, hread .less, hread .greater, hread .equal, ?_⟩
    have hsum : (Comparison.less.holds a b).toNat + (Comparison.greater.holds a b).toNat +
        (Comparison.equal.holds a b).toNat = _ := h.sum_holds a b
    rw [hsum]
    cases isMissing a <;> cases isMissing b <;> decide
  less_swap hbs := by
    have hholds : Comparison.less.holds = fun a b : α => Comparison.greater.holds b a :=
      funext fun a => funext fun b => h.less_eq_greater a b
    rw [compare_of_length_eq hbs, compare_of_length_eq hbs.symm, List.zipWith_comm, hholds]
  equal_swap hbs := by
    have hholds : Comparison.equal.holds = fun a b : α => Comparison.equal.holds b a :=
      funext fun a => funext fun b => h.beq_comm a b
    rw [compare_of_length_eq hbs, compare_of_length_eq hbs.symm, List.zipWith_comm, ← hholds]
  into c out mask hmask hout := by
    obtain ⟨hbs, rfl⟩ := eq_zipWith_of_compare hmask
    exact compareInto_of_length_eq hbs hout
  scalar c b := compare_replicate c as b
  scalar_into c b out hout := compareScalarInto_of_length_eq hout
  all c mask hmask := by rw [compareAll_eq, hmask]; rfl
  any c mask hmask := by rw [compareAny_eq, hmask]; rfl
  empty has hbs c := by
    subst has hbs
    exact ⟨rfl, rfl⟩
  rhs_refused hbs c := by
    have hmask := compare_of_length_ne (c := c) hbs
    refine ⟨hmask, ?_, ?_, fun out => compareInto_of_rhs_ne hbs⟩
    · rw [compareAll_eq, hmask]
      rfl
    · rw [compareAny_eq, hmask]
      rfl
  out_refused c out hout :=
    ⟨fun hbs => compareInto_of_out_ne hbs hout, fun b => compareScalarInto_of_length_ne hout⟩

end Masks

theorem masks_coherent (t : IntegerType) :
    (∀ as bs : List (Fixed t), CoherentMasks (fun _ => false) as bs) ∧
      ∀ (m : Marker) (as bs : List (Marked m (Fixed t))), CoherentMasks Marked.isMissing as bs :=
  ⟨coherentMasks (linear_fixed t), fun m => coherentMasks (linear_marked (linear_fixed t) m)⟩

theorem masks_coherent_missing :
    let number (n : Int) : Marked .greatest (Fixed .int8) := ⟨.wrap .int8 n⟩
    let as := [number 5, .missing, number 3]
    let bs := [number 7, number 7, number 3]
    compare .less as bs = .ok [true, false, false] ∧
      compare .greater bs as = .ok [true, false, false] ∧
      compareAny .less as bs = .ok true ∧ compareAll .less as bs = .ok false ∧
      compareInto .less as bs [true, true, true] = ⟨.ok (), [true, false, false]⟩ ∧
      compareInto .less as [number 7] [true] = ⟨.error (.lengthMismatch "rhs" 3 1), [true]⟩ := by
  intro number as bs
  have hmasks := (masks_coherent .int8).2 .greatest
  have hless : compare .less as bs = .ok [true, false, false] := compare_of_length_eq rfl
  refine ⟨hless, ((hmasks as bs).less_swap rfl).symm.trans hless, (hmasks as bs).any _ _ hless,
    (hmasks as bs).all _ _ hless, (hmasks as bs).into _ _ _ hless rfl, ?_⟩
  obtain ⟨-, -, -, hinto⟩ := (hmasks as [number 7]).rhs_refused (by decide) .less
  exact hinto [true]

end Kernel

end Columnar
