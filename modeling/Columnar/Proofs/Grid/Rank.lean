import Columnar.Grid.Shape
import Mathlib.Algebra.BigOperators.Group.List.Basic
import Mathlib.Data.List.Lex
import Mathlib.Tactic.Lemma

/-! The rank of an index is the number in mixed radix whose digits are its components. -/

namespace Columnar.Shape

def InBounds (shape index : List Nat) : Prop := List.Forall₂ (· < ·) index shape

def lexRank : List Nat → List Nat → Nat
  | _ :: shape, i :: index => i * shape.prod + lexRank shape index
  | _, _ => 0

variable {shape index i j : List Nat}

lemma mul_prod_add_lt {a b r p : Nat} (hab : a < b) (hr : r < p) : a * p + r < b * p := by
  have hle : (a + 1) * p ≤ b * p := Nat.mul_le_mul_right p hab
  rw [Nat.add_mul, Nat.one_mul] at hle
  omega

lemma lexRank_lt (h : InBounds shape index) : lexRank shape index < shape.prod := by
  induction h with
  | nil => simp [lexRank]
  | cons hi _ ih =>
    rw [lexRank, List.prod_cons]
    exact mul_prod_add_lt hi ih

lemma lexRank_lt_lexRank (hi : InBounds shape i) (hj : InBounds shape j) (h : i < j) :
    lexRank shape i < lexRank shape j := by
  induction hi generalizing j with
  | nil =>
    cases hj
    exact absurd h (List.lt_irrefl _)
  | cons ha htail ih =>
    cases hj with
    | cons hb hrest =>
      rw [lexRank, lexRank]
      rcases List.cons_lt_cons_iff.mp h with hlt | ⟨rfl, hlt⟩
      · have hstep := mul_prod_add_lt hlt (lexRank_lt htail)
        omega
      · have hrank := ih hrest hlt
        omega

lemma lexRank_lt_lexRank_iff (hi : InBounds shape i) (hj : InBounds shape j) :
    lexRank shape i < lexRank shape j ↔ i < j := by
  constructor
  · intro h
    rcases lt_trichotomy i j with hlt | rfl | hgt
    · exact hlt
    · exact absurd h (Nat.lt_irrefl _)
    · exact absurd (lexRank_lt_lexRank hj hi hgt) (Nat.lt_asymm h)
  · exact lexRank_lt_lexRank hi hj

lemma eq_of_lexRank_eq (hi : InBounds shape i) (hj : InBounds shape j)
    (h : lexRank shape i = lexRank shape j) : i = j := by
  rcases lt_trichotomy i j with hlt | he | hgt
  · exact absurd h (lexRank_lt_lexRank hi hj hlt).ne
  · exact he
  · exact absurd h (lexRank_lt_lexRank hj hi hgt).ne'

lemma exists_lexRank_eq {o : Nat} (h : o < shape.prod) :
    ∃ index, InBounds shape index ∧ lexRank shape index = o := by
  induction shape generalizing o with
  | nil =>
    rw [List.prod_nil] at h
    refine ⟨[], .nil, ?_⟩
    simp only [lexRank]
    omega
  | cons extent shape ih =>
    rw [List.prod_cons] at h
    have hpos : 0 < shape.prod := by
      apply Nat.pos_of_ne_zero
      intro h0
      rw [h0] at h
      omega
    obtain ⟨index, hindex, hrank⟩ := ih (Nat.mod_lt o hpos)
    refine ⟨o / shape.prod :: index, .cons ((Nat.div_lt_iff_lt_mul hpos).mpr h) hindex, ?_⟩
    rw [lexRank, hrank]
    exact Nat.div_add_mod' o shape.prod

lemma lexRank_append (hlen : index.length = shape.length) (extent i : Nat) :
    lexRank (shape ++ [extent]) (index ++ [i]) = lexRank shape index * extent + i := by
  induction shape generalizing index with
  | nil =>
    obtain rfl := List.length_eq_zero_iff.mp hlen
    simp [lexRank]
  | cons e shape ih =>
    cases index with
    | nil => cases hlen
    | cons a index =>
      rw [List.cons_append, List.cons_append, lexRank, lexRank, ih (Nat.succ.inj hlen),
        List.prod_append, List.prod_singleton, Nat.add_mul, Nat.mul_assoc, Nat.add_assoc]

end Columnar.Shape
