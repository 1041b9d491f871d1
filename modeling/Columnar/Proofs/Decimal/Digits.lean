import Columnar.Decimal.Digits
import Mathlib.Tactic.Lemma
import Mathlib.Tactic.Ring

namespace Columnar.Decimal

variable {n d : Nat} {c : Char}

lemma isDigit_digitChar (h : d < 10) : (digitChar d).isDigit := by
  revert d
  decide

lemma digitValue_digitChar (h : d < 10) : digitValue (digitChar d) = d := by
  revert d
  decide

lemma digitChar_ne_zero (h : d < 10) (hd : d ≠ 0) : digitChar d ≠ '0' := by
  revert d
  decide

lemma digits_zero : digits 0 = ['0'] := by
  rw [digits]
  rfl

lemma digits_ne_nil (n : Nat) : digits n ≠ [] := by
  rw [digits]
  split
  case isTrue => exact List.cons_ne_nil _ _
  case isFalse => exact List.append_ne_nil_of_right_ne_nil _ (List.cons_ne_nil _ _)

lemma isDigit_of_mem_digits (h : c ∈ digits n) : c.isDigit := by
  fun_induction digits n with
  | case1 n hn =>
    rw [List.mem_singleton.mp h]
    exact isDigit_digitChar hn
  | case2 n hn ih =>
    rcases List.mem_append.mp h with hc | hc
    · exact ih hc
    · rw [List.mem_singleton.mp hc]
      exact isDigit_digitChar (Nat.mod_lt n (by decide))

lemma value_digits (n : Nat) : value (digits n) = n := by
  fun_induction digits n with
  | case1 n hn => simp [value, digitValue_digitChar hn]
  | case2 n hn ih =>
    rw [value] at ih
    rw [value, List.foldl_append, ih, List.foldl_cons, List.foldl_nil,
      digitValue_digitChar (Nat.mod_lt n (by decide))]
    exact Nat.div_add_mod n 10

lemma exists_digits_cons (hn : n ≠ 0) : ∃ c ds, digits n = c :: ds ∧ c ≠ '0' := by
  fun_induction digits n with
  | case1 n h => exact ⟨_, [], rfl, digitChar_ne_zero h hn⟩
  | case2 n h ih =>
    obtain ⟨c, ds, hds, hc⟩ := ih (by omega)
    exact ⟨c, ds ++ [digitChar (n % 10)], by rw [hds, List.cons_append], hc⟩

lemma foldl_eq (n : Nat) (ds : List Char) :
    ds.foldl (fun n c => 10 * n + digitValue c) n = n * 10 ^ ds.length + value ds := by
  induction ds generalizing n with
  | nil => simp [value]
  | cons c ds ih =>
    rw [value, List.foldl_cons, List.foldl_cons, ih, ih (10 * 0 + digitValue c), List.length_cons]
    ring

lemma value_append (as bs : List Char) :
    value (as ++ bs) = value as * 10 ^ bs.length + value bs := by
  rw [value, List.foldl_append, foldl_eq]
  rfl

lemma value_cons (c : Char) (ds : List Char) :
    value (c :: ds) = digitValue c * 10 ^ ds.length + value ds := by
  rw [← List.singleton_append, value_append]
  simp [value]

lemma value_take_le (k : Nat) (ds : List Char) : value (ds.take k) ≤ value ds := by
  have hsplit := value_append (ds.take k) (ds.drop k)
  rw [List.take_append_drop] at hsplit
  rw [hsplit]
  exact Nat.le_add_right_of_le (Nat.le_mul_of_pos_right _ (Nat.pow_pos (by decide)))

lemma value_dropWhile_zero (ds : List Char) : value (ds.dropWhile (· == '0')) = value ds := by
  induction ds with
  | nil => rfl
  | cons c ds ih =>
    by_cases hc : c = '0'
    · subst hc
      have hzero : digitValue '0' = 0 := rfl
      rw [List.dropWhile_cons_of_pos (by rfl), ih, value_cons, hzero, Nat.zero_mul, Nat.zero_add]
    · rw [List.dropWhile_cons_of_neg (by simpa using hc)]

lemma lt_pow_length_digits (n : Nat) : n < 10 ^ (digits n).length := by
  fun_induction digits n with
  | case1 n hn => exact hn
  | case2 n hn ih =>
    rw [List.length_append, List.length_singleton, Nat.pow_succ]
    omega

lemma pow_length_digits_le (hn : n ≠ 0) : 10 ^ (digits n).length ≤ 10 * n := by
  fun_induction digits n with
  | case1 n h =>
    rw [List.length_singleton]
    omega
  | case2 n h ih =>
    have := ih (by omega)
    rw [List.length_append, List.length_singleton, Nat.pow_succ]
    omega

end Columnar.Decimal
