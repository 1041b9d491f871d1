import Columnar.Grid.Strided
import Columnar.Proofs.Grid.Rank
import Columnar.Proofs.Result
import Mathlib.Order.Interval.Set.Nat

/-! The offset of an index is its rank, in the order of the layout. -/

namespace Columnar

namespace Layout

def Precedes : Layout → List Nat → List Nat → Prop
  | rowMajor, i, j => i < j
  | columnMajor, i, j => i.reverse < j.reverse

def slowestFirst : Layout → List Nat → List Nat
  | rowMajor, l => l
  | columnMajor, l => l.reverse

lemma precedes_iff {l : Layout} {i j : List Nat} :
    l.Precedes i j ↔ l.slowestFirst i < l.slowestFirst j := by
  cases l <;> rfl

lemma slowestFirst_slowestFirst (l : Layout) (i : List Nat) :
    l.slowestFirst (l.slowestFirst i) = i := by
  cases l with
  | rowMajor => rfl
  | columnMajor => exact List.reverse_reverse i

lemma prod_slowestFirst (l : Layout) (shape : List Nat) :
    (l.slowestFirst shape).prod = shape.prod := by
  cases l with
  | rowMajor => rfl
  | columnMajor => exact List.prod_reverse shape

lemma inBounds_slowestFirst {l : Layout} {shape index : List Nat} :
    Shape.InBounds (l.slowestFirst shape) (l.slowestFirst index) ↔ Shape.InBounds shape index := by
  cases l with
  | rowMajor => rfl
  | columnMajor => exact List.forall₂_reverse_iff

end Layout

namespace Shape

def word? (n : Nat) : Option Nat := if n < wordSize then some n else none

def wordOffsetFrom (offset : Nat) : List Nat → List Nat → List Nat → Option (Option Nat)
  | extent :: shape, stride :: strides, i :: index =>
    if i < extent then do
      let step ← word? (i * stride)
      let offset ← word? (offset + step)
      wordOffsetFrom offset shape strides index
    else some none
  | _, _, _ => some (some offset)

def wordOffset? (shape strides index : List Nat) : Option (Option Nat) :=
  if index.length = shape.length then wordOffsetFrom 0 shape strides index else some none

lemma word?_of_lt {n : Nat} (h : n < wordSize) : word? n = some n := if_pos h

/-- From `offset` on, the loop ends at `place` if the index is in bounds, and without an overflow in
any case. -/
structure Reaches (offset : Nat) (shape strides index : List Nat) (place : Nat) : Prop where
  word : wordOffsetFrom offset shape strides index = some (offsetFrom offset shape strides index)
  some_iff : ∀ o, offsetFrom offset shape strides index = some o ↔ InBounds shape index ∧ o = place

section Step

variable {offset extent stride i place : Nat} {shape strides index : List Nat}

lemma reaches_nil (offset : Nat) : Reaches offset [] [] [] offset where
  word := rfl
  some_iff o := by
    have hnil : InBounds [] [] := .nil
    simp [offsetFrom, hnil, eq_comm]

lemma reaches_cons (hi : i < extent) (hword : offset + i * stride < wordSize)
    (h : Reaches (offset + i * stride) shape strides index place) :
    Reaches offset (extent :: shape) (stride :: strides) (i :: index) place where
  word := by
    have hstep : i * stride < wordSize := by omega
    rw [wordOffsetFrom, if_pos hi, word?_of_lt hstep, offsetFrom, if_pos hi]
    simp only [Option.bind_eq_bind, Option.bind_some, word?_of_lt hword]
    exact h.word
  some_iff o := by
    rw [offsetFrom, if_pos hi, h.some_iff, InBounds, InBounds, List.forall₂_cons]
    simp only [hi, true_and]

lemma reaches_of_not_lt (hi : ¬ i < extent) :
    Reaches offset (extent :: shape) (stride :: strides) (i :: index) place where
  word := by rw [wordOffsetFrom, if_neg hi, offsetFrom, if_neg hi]
  some_iff o := by
    rw [offsetFrom, if_neg hi, InBounds, List.forall₂_cons]
    simp [hi]

end Step

lemma countFrom_eq_some {shape : List Nat} {n k : Nat} (hn : n < wordSize)
    (h : countFrom n shape = some k) : k = n * shape.prod ∧ k < wordSize := by
  induction shape generalizing n with
  | nil =>
    cases h
    exact ⟨by simp, hn⟩
  | cons extent shape ih =>
    rw [countFrom] at h
    split at h
    case isTrue hlt =>
      rw [List.prod_cons, ← Nat.mul_assoc]
      exact ih hlt h
    case isFalse => cases h

lemma countFrom_of_count {shape : List Nat} {n : Nat} (h : count shape = .ok n) :
    countFrom 1 shape = some n := by
  rw [count] at h
  split at h
  case h_1 k hk =>
    cases h
    exact hk
  case h_2 => cases h

lemma prod_of_count {shape : List Nat} {n : Nat} (h : count shape = .ok n) :
    shape.prod = n ∧ n < wordSize := by
  obtain ⟨hn, hlt⟩ := countFrom_eq_some (by decide) (countFrom_of_count h)
  rw [Nat.one_mul] at hn
  exact ⟨hn.symm, hlt⟩

lemma stridesFrom_append (s : Nat) (shape : List Nat) (extent : Nat) :
    stridesFrom (s % wordSize) (shape ++ [extent]) =
      stridesFrom (s % wordSize) shape ++ [s * shape.prod % wordSize] := by
  induction shape generalizing s with
  | nil => simp [stridesFrom]
  | cons e shape ih =>
    have hstride : s % wordSize * e % wordSize = s * e % wordSize := Nat.mod_mul_mod s e wordSize
    rw [List.cons_append, stridesFrom, stridesFrom, hstride, ih, List.prod_cons, List.cons_append,
      Nat.mul_assoc]

lemma strides_rowMajor_cons (extent : Nat) (shape : List Nat) :
    strides (extent :: shape) .rowMajor = shape.prod % wordSize :: strides shape .rowMajor := by
  have happend := stridesFrom_append 1 shape.reverse extent
  have hone : 1 % wordSize = 1 := rfl
  rw [hone, Nat.one_mul, List.prod_reverse] at happend
  rw [strides, strides, List.reverse_cons, happend, List.reverse_append, List.reverse_singleton,
    List.singleton_append]

lemma reaches_rowMajor {shape index : List Nat} {offset : Nat}
    (hlen : index.length = shape.length) (hroom : offset + shape.prod < wordSize) :
    Reaches offset shape (strides shape .rowMajor) index (offset + lexRank shape index) := by
  -- the cells of the dimensions to come have room from the offset on, so a stride is exact as soon
  -- as a component lies below its extent
  induction shape generalizing index offset with
  | nil =>
    obtain rfl := List.length_eq_zero_iff.mp hlen
    exact reaches_nil offset
  | cons extent shape ih =>
    cases index with
    | nil => cases hlen
    | cons i index =>
      rw [strides_rowMajor_cons]
      by_cases hi : i < extent
      · have hcells : i * shape.prod + shape.prod ≤ extent * shape.prod := by
          have hmul := Nat.mul_le_mul_right shape.prod (Nat.succ_le_of_lt hi)
          rwa [Nat.succ_mul] at hmul
        rw [List.prod_cons] at hroom
        have hstride : shape.prod % wordSize = shape.prod := Nat.mod_eq_of_lt (by omega)
        rw [hstride, lexRank, ← Nat.add_assoc]
        apply reaches_cons hi (by omega)
        exact ih (Nat.succ.inj hlen) (by omega)
      · exact reaches_of_not_lt hi

lemma reaches_columnMajor {shape index : List Nat} {offset stride n : Nat}
    (hlen : index.length = shape.length) (hoffset : offset < stride)
    (hcount : countFrom stride shape = some n) :
    Reaches offset shape (stridesFrom stride shape) index
      (offset + stride * lexRank shape.reverse index.reverse) := by
  -- the offset stays below the stride, and the count has checked all the strides to come
  induction shape generalizing index offset stride with
  | nil =>
    obtain rfl := List.length_eq_zero_iff.mp hlen
    exact reaches_nil offset
  | cons extent shape ih =>
    cases index with
    | nil => cases hlen
    | cons i index =>
      rw [countFrom] at hcount
      split at hcount
      case isFalse => cases hcount
      case isTrue hnext =>
        rw [stridesFrom, Nat.mod_eq_of_lt hnext]
        by_cases hi : i < extent
        · have hbelow : offset + i * stride < stride * extent := by
            have hmul := Nat.mul_le_mul_right stride (Nat.succ_le_of_lt hi)
            rw [Nat.succ_mul, Nat.mul_comm extent] at hmul
            omega
          have hlen' := Nat.succ.inj hlen
          have hrank : offset + stride * lexRank (extent :: shape).reverse (i :: index).reverse =
              offset + i * stride + stride * extent * lexRank shape.reverse index.reverse := by
            rw [List.reverse_cons, List.reverse_cons,
              lexRank_append (by simpa using hlen'), Nat.mul_add, Nat.mul_comm i, Nat.mul_assoc,
              Nat.mul_comm extent, Nat.add_assoc, Nat.add_comm (stride * i)]
          rw [hrank]
          apply reaches_cons hi (by omega)
          exact ih hlen' hbelow hcount
        · exact reaches_of_not_lt hi

section Place

variable {shape index i j : List Nat} {layout : Layout}

def place (layout : Layout) (shape index : List Nat) : Nat :=
  lexRank (layout.slowestFirst shape) (layout.slowestFirst index)

lemma offset?_strides (layout : Layout) {n : Nat} (hcount : count shape = .ok n)
    (index : List Nat) :
    wordOffset? shape (strides shape layout) index =
      some (offset? shape (strides shape layout) index) ∧
    ∀ o, offset? shape (strides shape layout) index = some o ↔
      InBounds shape index ∧ o = place layout shape index := by
  obtain ⟨hn, hlt⟩ := prod_of_count hcount
  rw [wordOffset?, offset?]
  split
  case isTrue hlen =>
    have h : Reaches 0 shape (strides shape layout) index (place layout shape index) := by
      cases layout with
      | rowMajor =>
        have hrow := @reaches_rowMajor shape index 0 hlen (by omega)
        rwa [Nat.zero_add] at hrow
      | columnMajor =>
        have hcolumn := reaches_columnMajor hlen Nat.one_pos (countFrom_of_count hcount)
        rwa [Nat.zero_add, Nat.one_mul] at hcolumn
    exact ⟨h.word, h.some_iff⟩
  case isFalse hlen =>
    refine ⟨rfl, fun o => ?_⟩
    have hout : ¬ InBounds shape index := fun h => hlen h.length_eq
    simp [hout]

lemma place_lt (h : InBounds shape index) : place layout shape index < shape.prod := by
  have hlt := lexRank_lt (Layout.inBounds_slowestFirst (l := layout).mpr h)
  rwa [Layout.prod_slowestFirst] at hlt

lemma place_lt_place_iff (hi : InBounds shape i) (hj : InBounds shape j) :
    place layout shape i < place layout shape j ↔ layout.Precedes i j := by
  rw [Layout.precedes_iff]
  exact lexRank_lt_lexRank_iff (Layout.inBounds_slowestFirst.mpr hi)
    (Layout.inBounds_slowestFirst.mpr hj)

lemma eq_of_place_eq (hi : InBounds shape i) (hj : InBounds shape j)
    (h : place layout shape i = place layout shape j) : i = j := by
  have hslowest :=
    eq_of_lexRank_eq (Layout.inBounds_slowestFirst.mpr hi) (Layout.inBounds_slowestFirst.mpr hj) h
  rw [← layout.slowestFirst_slowestFirst i, hslowest, layout.slowestFirst_slowestFirst]

lemma exists_place_eq (layout : Layout) {o : Nat} (h : o < shape.prod) :
    ∃ index, InBounds shape index ∧ place layout shape index = o := by
  rw [← Layout.prod_slowestFirst layout] at h
  obtain ⟨index, hindex, hrank⟩ := exists_lexRank_eq h
  refine ⟨layout.slowestFirst index, ?_, ?_⟩
  · apply Layout.inBounds_slowestFirst (l := layout).mp
    rwa [layout.slowestFirst_slowestFirst]
  · rwa [place, layout.slowestFirst_slowestFirst]

lemma ncard_precedes (hi : InBounds shape i) :
    {j | InBounds shape j ∧ layout.Precedes j i}.ncard = place layout shape i := by
  have himage : place layout shape '' {j | InBounds shape j ∧ layout.Precedes j i} =
      Set.Iio (place layout shape i) := by
    apply Set.Subset.antisymm
    · rintro o ⟨j, ⟨hj, hbefore⟩, rfl⟩
      exact (place_lt_place_iff hj hi).mpr hbefore
    · intro o ho
      obtain ⟨j, hj, rfl⟩ := exists_place_eq layout (lt_trans ho (place_lt hi))
      exact ⟨j, ⟨hj, (place_lt_place_iff hj hi).mp ho⟩, rfl⟩
  have hinj : Set.InjOn (place layout shape) {j | InBounds shape j ∧ layout.Precedes j i} :=
    fun j hj k hk h => eq_of_place_eq hj.1 hk.1 h
  rw [← hinj.ncard_image, himage, Set.ncard_Iio_nat]

end Place

end Shape

namespace Strided

open Shape

variable {α : Type} {data : List α} {shape : List Nat} {layout : Layout} {v : Strided α}

lemma withLayout_eq_ok_iff :
    withLayout data shape layout = .ok v ↔
      count shape = .ok data.length ∧ v = ofParts data shape layout := by
  simp only [withLayout, check, bind_eq_ok]
  constructor
  · rintro ⟨u, ⟨n, hcount, hcheck⟩, hv⟩
    split at hcheck
    case isTrue hn =>
      cases hv
      exact ⟨hn ▸ hcount, rfl⟩
    case isFalse => cases hcheck
  · rintro ⟨hcount, rfl⟩
    exact ⟨(), ⟨_, hcount, if_pos rfl⟩, rfl⟩

theorem offset_bijective (h : withLayout data shape layout = .ok v) :
    (∀ index, (∃ o, v.offset? index = some o) ↔ InBounds shape index) ∧
    (∀ index, wordOffset? v.shape v.strides index = some (v.offset? index)) ∧
    (∀ index o, v.offset? index = some o → o < data.length) ∧
    (∀ index, (∃ a, v.get? index = some a) ↔ ∃ o, v.offset? index = some o) ∧
    (∀ i j o, v.offset? i = some o → v.offset? j = some o → i = j) ∧
    (∀ o < data.length, ∃ index, v.offset? index = some o) ∧
    ∀ index o, v.offset? index = some o →
      {j | InBounds shape j ∧ layout.Precedes j index}.ncard = o := by
  obtain ⟨hcount, rfl⟩ := withLayout_eq_ok_iff.mp h
  have hoffset (index : List Nat) (o : Nat) : (ofParts data shape layout).offset? index = some o ↔
      InBounds shape index ∧ o = place layout shape index :=
    (offset?_strides layout hcount index).2 o
  obtain ⟨hsize, -⟩ := prod_of_count hcount
  have hlt (index : List Nat) (o : Nat) (ho : (ofParts data shape layout).offset? index = some o) :
      o < data.length := by
    obtain ⟨hindex, rfl⟩ := (hoffset index o).mp ho
    exact hsize ▸ place_lt hindex
  refine ⟨?_, fun index => (offset?_strides layout hcount index).1, hlt, ?_, ?_, ?_, ?_⟩
  · intro index
    simp only [hoffset, exists_and_left, exists_eq, and_true]
  · intro index
    constructor
    · rintro ⟨a, ha⟩
      obtain ⟨o, ho, -⟩ := Option.bind_eq_some_iff.mp ha
      exact ⟨o, ho⟩
    · rintro ⟨o, ho⟩
      have hdata := List.getElem?_eq_getElem (hlt index o ho)
      exact ⟨_, Option.bind_eq_some_iff.mpr ⟨o, ho, hdata⟩⟩
  · intro i j o hi hj
    obtain ⟨hiBounds, hiPlace⟩ := (hoffset i o).mp hi
    obtain ⟨hjBounds, hjPlace⟩ := (hoffset j o).mp hj
    exact eq_of_place_eq hiBounds hjBounds (hiPlace.symm.trans hjPlace)
  · intro o ho
    obtain ⟨index, hindex, hplace⟩ := exists_place_eq layout (hsize.symm ▸ ho)
    exact ⟨index, (hoffset index o).mpr ⟨hindex, hplace.symm⟩⟩
  · intro index o ho
    obtain ⟨hindex, rfl⟩ := (hoffset index o).mp ho
    exact ncard_precedes hindex

theorem offset_bijective_columns :
    ∃ v : Strided Char, withLayout ['a', 'b', 'c', 'd', 'e', 'f'] [2, 3] .columnMajor = .ok v ∧
      v.strides = [1, 2] ∧ v.offset? [1, 1] = some 3 ∧ v.get? [1, 1] = some 'd' ∧
      {j | InBounds [2, 3] j ∧ Layout.columnMajor.Precedes j [1, 1]}.ncard = 3 := by
  obtain ⟨v, hv⟩ : ∃ v : Strided Char,
      withLayout ['a', 'b', 'c', 'd', 'e', 'f'] [2, 3] .columnMajor = .ok v := ⟨_, rfl⟩
  obtain ⟨-, -, -, -, -, -, hcard⟩ := offset_bijective hv
  cases hv
  exact ⟨_, rfl, rfl, rfl, rfl, hcard [1, 1] 3 rfl⟩

end Strided

end Columnar
