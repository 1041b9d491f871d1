import Columnar.Element
import Columnar.Proofs.Kernel.Extremum
import Columnar.Proofs.Scalar.Order
import Columnar.Proofs.Scalar.Wrapping
import Mathlib.Data.List.Induction
import Mathlib.Order.RelClasses

/-! Of a comparison nothing is needed but that it is a strict weak order of the values other
than NaN. -/

namespace Columnar.Reduction

variable {α : Type} [Number α] {better : α → α → Bool} {a b c : α} {as bs : List α} {r : Result α}

def WeaklyOrders (better : α → α → Bool) : Prop :=
  IsStrictWeakOrder {a : α // ¬Number.isNaN a} fun a b => better a b

def IsFirstUnbeaten (better : α → α → Bool) (as : List α) (b : α) : Prop :=
  (∀ a ∈ as, ¬better a b) ∧ ∃ before after, as = before ++ b :: after ∧ ∀ a ∈ before, better b a

namespace WeaklyOrders

variable (h : WeaklyOrders better)
include h

lemma irrefl (ha : ¬Number.isNaN a) : ¬better a a := h.toIrrefl.irrefl ⟨a, ha⟩

lemma trans (ha : ¬Number.isNaN a) (hb : ¬Number.isNaN b) (hc : ¬Number.isNaN c) (hab : better a b)
    (hbc : better b c) : better a c :=
  h.toIsTrans.trans ⟨a, ha⟩ ⟨b, hb⟩ ⟨c, hc⟩ hab hbc

lemma better_or_better (ha : ¬Number.isNaN a) (hb : ¬Number.isNaN b) (hc : ¬Number.isNaN c)
    (hab : better a b) : better a c ∨ better c b := by
  by_contra! hnone
  obtain ⟨hac, hcb⟩ := hnone
  have hca : ¬better c a := fun hca => by simp [h.trans hc ha hb hca hab] at hcb
  have hbc : ¬better b c := fun hbc => by simp [h.trans ha hb hc hab hbc] at hac
  have hlevel :=
    h.incomp_trans ⟨a, ha⟩ ⟨c, hc⟩ ⟨b, hb⟩ ⟨by simpa using hac, hca⟩ ⟨by simpa using hcb, hbc⟩
  exact hlevel.1 hab

lemma isFirstUnbeaten_singleton (ha : ¬Number.isNaN a) : IsFirstUnbeaten better [a] a := by
  refine ⟨?_, [], [], rfl, by simp⟩
  intro b hb
  rw [List.mem_singleton.mp hb]
  exact h.irrefl ha

lemma isFirstUnbeaten_keepBetter (hb : IsFirstUnbeaten better as b)
    (has : ∀ c ∈ as ++ [a], ¬Number.isNaN c) :
    IsFirstUnbeaten better (as ++ [a]) (keepBetter better b a) := by
  simp only [List.forall_mem_append, List.forall_mem_singleton] at has
  obtain ⟨has, ha⟩ := has
  obtain ⟨hunbeaten, before, after, hsplit, hbefore⟩ := hb
  have hnumber : ¬Number.isNaN b := has b (by simp [hsplit])
  simp only [keepBetter]
  split
  case isTrue hab =>
    refine ⟨?_, as, [], rfl, ?_⟩
    · simp only [List.forall_mem_append, List.forall_mem_singleton]
      exact ⟨fun c hc hca => hunbeaten c hc (h.trans (has c hc) ha hnumber hca hab), h.irrefl ha⟩
    · intro c hc
      exact (h.better_or_better ha hnumber (has c hc) hab).resolve_right (hunbeaten c hc)
  case isFalse hab =>
    refine ⟨?_, before, after ++ [a], by simp [hsplit], hbefore⟩
    simp only [List.forall_mem_append, List.forall_mem_singleton]
    exact ⟨hunbeaten, hab⟩

lemma isFirstUnbeaten_foldl (has : ∀ c ∈ a :: as, ¬Number.isNaN c) :
    IsFirstUnbeaten better (a :: as) (as.foldl (keepBetter better) a) := by
  -- what the fold has kept is the first unbeaten of the values so far
  induction as using List.reverseRecOn with
  | nil => exact h.isFirstUnbeaten_singleton (has a List.mem_cons_self)
  | append_singleton as c ih =>
    rw [← List.cons_append] at has ⊢
    rw [List.foldl_append, List.foldl_cons, List.foldl_nil]
    apply h.isFirstUnbeaten_keepBetter (ih _) has
    intro d hd
    exact has d (List.mem_append_left _ hd)

end WeaklyOrders

/-- There is an extremum unless there are no values. It is a NaN if one of them is, wherever it
stands, and otherwise the first of those that no value beats. -/
structure IsExtremum (better : α → α → Bool) (as : List α) (r : Result α) : Prop where
  error_iff : r = .error (.emptyInput "values") ↔ as = []
  exists_iff : (∃ b, r = .ok b) ↔ as ≠ []
  isNaN_iff : ∀ b, r = .ok b → (Number.isNaN b ↔ ∃ a ∈ as, Number.isNaN a)
  first_unbeaten : ∀ b, r = .ok b → ¬Number.isNaN b → IsFirstUnbeaten better as b

lemma isExtremum_extremum (h : WeaklyOrders better) (as : List α) :
    IsExtremum better as (extremum better as) := by
  cases as with
  | nil => exact ⟨by simp [extremum, noValues], by simp [extremum], nofun, nofun⟩
  | cons a as =>
    by_cases hnan : ∃ c ∈ a :: as, Number.isNaN c
    · obtain ⟨b, hb, hbnan⟩ : ∃ b, extremum better (a :: as) = .ok b ∧ Number.isNaN b :=
        isNaN_extremum hnan
      rw [hb]
      refine ⟨by simp, by simp, ?_, ?_⟩
      · rintro _ ⟨⟩
        exact iff_of_true hbnan hnan
      · rintro _ ⟨⟩ hnumber
        exact absurd hbnan hnumber
    · have hnumbers : ∀ c ∈ a :: as, ¬Number.isNaN c := fun c hc hcnan => hnan ⟨c, hc, hcnan⟩
      obtain ⟨ha, has⟩ := List.forall_mem_cons.mp hnumbers
      have hfirst := h.isFirstUnbeaten_foldl hnumbers
      rw [extremum, extremumFrom_eq_foldl ha has]
      refine ⟨by simp, by simp, ?_, ?_⟩
      · rintro _ ⟨⟩
        obtain ⟨-, before, after, hsplit, -⟩ := hfirst
        refine iff_of_false (hnumbers _ ?_) hnan
        rw [hsplit]
        simp
      · rintro _ ⟨⟩ -
        exact hfirst

omit [Number α] in
lemma IsFirstUnbeaten.mem (h : IsFirstUnbeaten better as b) : b ∈ as := by
  obtain ⟨-, before, after, rfl, -⟩ := h
  simp

lemma extremum_eq_of_perm (h : WeaklyOrders better) (hperm : as.Perm bs)
    (hnumbers : ∀ a : α, ¬Number.isNaN a) (heq : ∀ a b, ¬better a b → ¬better b a → a = b) :
    extremum better as = extremum better bs := by
  have hr := isExtremum_extremum h as
  have hs := isExtremum_extremum h bs
  by_cases hnil : as = []
  · have hnil' : bs = [] := List.nil_perm.mp (hnil ▸ hperm)
    rw [hr.error_iff.mpr hnil, hs.error_iff.mpr hnil']
  · have hnil' : bs ≠ [] := fun hbs => hnil (List.perm_nil.mp (hbs ▸ hperm))
    obtain ⟨b, hb⟩ := hr.exists_iff.mpr hnil
    obtain ⟨c, hc⟩ := hs.exists_iff.mpr hnil'
    have hbfirst := hr.first_unbeaten b hb (hnumbers b)
    have hcfirst := hs.first_unbeaten c hc (hnumbers c)
    have hbc : ¬better b c := hcfirst.1 b (hperm.mem_iff.mp hbfirst.mem)
    have hcb : ¬better c b := hbfirst.1 c (hperm.mem_iff.mpr hcfirst.mem)
    rw [hb, hc, heq b c hbc hcb]

lemma weaklyOrders_of_rank {β : Type} [LinearOrder β] (rank : α → β)
    (h : ∀ a b, ¬Number.isNaN a → ¬Number.isNaN b → (better a b ↔ rank a < rank b)) :
    WeaklyOrders better := by
  have hrank : (fun a b : {a : α // ¬Number.isNaN a} => (better a b : Prop)) =
      Order.Preimage (rank ∘ Subtype.val) (· < ·) :=
    funext fun a => funext fun b => propext (h a b a.2 b.2)
  have hweak : IsStrictWeakOrder β (· < ·) := isStrictWeakOrder_of_isOrderConnected
  rw [WeaklyOrders, hrank]
  infer_instance

lemma weaklyOrders_less (t : NumberType) :
    WeaklyOrders (Ordered.less : t.Carrier → t.Carrier → Bool) :=
  weaklyOrders_of_rank t.rank fun _ _ => NumberType.less_iff

lemma weaklyOrders_greater (t : NumberType) :
    WeaklyOrders (Ordered.greater : t.Carrier → t.Carrier → Bool) :=
  weaklyOrders_of_rank (fun a => OrderDual.toDual (t.rank a)) fun _ _ => NumberType.greater_iff

theorem extrema_first_unbeaten :
    (∀ (t : NumberType) (as : List t.Carrier),
      IsExtremum Ordered.less as (min as) ∧ IsExtremum Ordered.greater as (max as)) ∧
    ∀ (t : IntegerType) (as bs : List (Fixed t)), as.Perm bs → min as = min bs ∧
      max as = max bs := by
  refine ⟨fun t as => ⟨isExtremum_extremum (weaklyOrders_less t) as,
    isExtremum_extremum (weaklyOrders_greater t) as⟩, ?_⟩
  intro t as bs hperm
  refine ⟨extremum_eq_of_perm (weaklyOrders_less (.integer t)) hperm ?_ ?_,
    extremum_eq_of_perm (weaklyOrders_greater (.integer t)) hperm ?_ ?_⟩
  · exact fun _ => Bool.false_ne_true
  · intro a b hab hba
    rw [Fixed.less_eq, decide_eq_true_iff] at hab hba
    exact Fixed.ext (by omega)
  · exact fun _ => Bool.false_ne_true
  · intro a b hab hba
    rw [Fixed.greater_eq, decide_eq_true_iff] at hab hba
    exact Fixed.ext (by omega)

theorem extrema_first_unbeaten_zeros :
    let zero : Float := Floating.zero
    let one : Float := Floating.scaled 1 0
    let number (n : Int) : Fixed .int8 := .wrap .int8 n
    let numbers := [number 3, number (-1), number 2]
    let others := [number 2, number 3, number (-1)]
    min [one, zero, -zero] = .ok zero ∧ IsFirstUnbeaten Ordered.less [one, zero, -zero] zero ∧
      zero ≠ -zero ∧
      (∃ b, max [one, Floating.nan, zero] = .ok b ∧ Number.isNaN b) ∧
      numbers.Perm others ∧ min numbers = .ok (number (-1)) ∧ min others = .ok (number (-1)) := by
  intro zero one number numbers others
  obtain ⟨hextrema, hperm⟩ := extrema_first_unbeaten
  have hmin : min [one, zero, -zero] = .ok zero := by decide +kernel
  have hfirst :=
    (hextrema .binary64 [one, zero, -zero]).1.first_unbeaten zero hmin (by decide +kernel)
  have hmax := (hextrema .binary64 [one, Floating.nan, zero]).2
  obtain ⟨b, hb⟩ := hmax.exists_iff.mpr (List.cons_ne_nil _ _)
  have hb_nan := (hmax.isNaN_iff b hb).mpr ⟨Floating.nan, by simp, by decide +kernel⟩
  have hnumbers : numbers.Perm others := by decide
  have hleast : min numbers = .ok (number (-1)) := by decide
  exact ⟨hmin, hfirst, by decide +kernel, ⟨b, hb, hb_nan⟩, hnumbers, hleast,
    (hperm .int8 numbers others hnumbers).1.symm.trans hleast⟩

end Columnar.Reduction
