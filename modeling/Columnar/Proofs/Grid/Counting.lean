import Columnar.Proofs.Grid.RoundTrip
import Mathlib.Algebra.BigOperators.Ring.List
import Mathlib.Algebra.Order.BigOperators.GroupWithZero.List
import Mathlib.Data.List.TakeWhile

/-! Behind an extent of zero no product leaves the word, so a zero hides what follows it and not
what stands before it. -/

namespace Columnar

namespace Shape

variable {shape other : List Nat} {n : Nat}

def beforeZero (shape : List Nat) : List Nat := shape.takeWhile (· ≠ 0)

def OrderFree (shape : List Nat) : Prop := 0 ∉ shape ∨ (shape.filter (· ≠ 0)).prod < wordSize

lemma countFrom_zero (shape : List Nat) : countFrom 0 shape = some 0 := by
  induction shape with
  | nil => rfl
  | cons extent shape ih => rw [countFrom, Nat.zero_mul, if_pos (by decide), ih]

lemma pos_of_mem_beforeZero (h : n ∈ beforeZero shape) : 0 < n := by
  have hne := List.mem_takeWhile_imp h
  exact Nat.pos_of_ne_zero (of_decide_eq_true hne)

lemma prod_beforeZero_pos (shape : List Nat) : 0 < (beforeZero shape).prod :=
  List.prod_pos fun _ h => pos_of_mem_beforeZero h

lemma beforeZero_cons_of_pos {extent : Nat} (h : 0 < extent) (shape : List Nat) :
    beforeZero (extent :: shape) = extent :: beforeZero shape :=
  List.takeWhile_cons_of_pos (decide_eq_true (Nat.ne_of_gt h))

lemma countFrom_eq (hpos : 0 < n) (hn : n < wordSize) :
    countFrom n shape =
      if n * (beforeZero shape).prod < wordSize then some (n * shape.prod) else none := by
  induction shape generalizing n with
  | nil => simp [countFrom, beforeZero, hn]
  | cons extent shape ih =>
    rw [countFrom]
    by_cases hextent : extent = 0
    · rw [hextent, Nat.mul_zero, if_pos (by decide), countFrom_zero]
      simp [beforeZero, hn]
    · have hextent := Nat.pos_of_ne_zero hextent
      rw [beforeZero_cons_of_pos hextent, List.prod_cons, List.prod_cons, ← Nat.mul_assoc,
        ← Nat.mul_assoc]
      by_cases hnext : n * extent < wordSize
      · rw [if_pos hnext, ih (Nat.mul_pos hpos hextent) hnext]
      · have hleaves : n * extent ≤ n * extent * (beforeZero shape).prod :=
          Nat.le_mul_of_pos_right _ (prod_beforeZero_pos shape)
        rw [if_neg hnext, if_neg (by omega)]

lemma count_eq (shape : List Nat) :
    count shape =
      if (beforeZero shape).prod < wordSize then .ok shape.prod
      else .error (.overflow "shape") := by
  rw [count, countFrom_eq Nat.one_pos (by decide), Nat.one_mul, Nat.one_mul]
  by_cases h : (beforeZero shape).prod < wordSize
  · rw [if_pos h, if_pos h]
  · rw [if_neg h, if_neg h]

lemma count_of_lt (h : (beforeZero shape).prod < wordSize) : count shape = .ok shape.prod := by
  rw [count_eq, if_pos h]

lemma count_of_le (h : wordSize ≤ (beforeZero shape).prod) :
    count shape = .error (.overflow "shape") := by
  rw [count_eq, if_neg (Nat.not_lt.mpr h)]

lemma beforeZero_of_not_mem (h : 0 ∉ shape) : beforeZero shape = shape := by
  apply List.takeWhile_eq_self_iff.mpr
  intro n hn
  exact decide_eq_true fun hzero => h (hzero ▸ hn)

lemma prod_beforeZero_le_filter (shape : List Nat) :
    (beforeZero shape).prod ≤ (shape.filter (· ≠ 0)).prod := by
  have hsublist := (List.takeWhile_sublist (l := shape) (· ≠ 0)).filter (· ≠ 0)
  rw [List.filter_eq_self.mpr fun _ => List.mem_takeWhile_imp] at hsublist
  apply Nat.le_of_dvd
  · apply List.prod_pos
    intro n hn
    exact Nat.pos_of_ne_zero (of_decide_eq_true (List.mem_filter.mp hn).2)
  · exact hsublist.prod_dvd_prod

lemma OrderFree.perm (h : OrderFree shape) (hperm : other.Perm shape) : OrderFree other := by
  rcases h with hzero | hfilter
  · exact .inl fun hmem => hzero (hperm.mem_iff.mp hmem)
  · exact .inr ((hperm.filter _).prod_eq ▸ hfilter)

lemma OrderFree.count_eq_ite (h : OrderFree shape) :
    count shape = if shape.prod < wordSize then .ok shape.prod else .error (.overflow "shape") := by
  by_cases hzero : 0 ∈ shape
  · have hfilter := h.resolve_left (not_not.mpr hzero)
    have hprod : shape.prod = 0 := List.prod_eq_zero hzero
    rw [count_of_lt (Nat.lt_of_le_of_lt (prod_beforeZero_le_filter shape) hfilter), hprod,
      if_pos (by decide)]
  · rw [count_eq, beforeZero_of_not_mem hzero]

lemma OrderFree.count_perm (h : OrderFree shape) (hperm : other.Perm shape) :
    count other = count shape := by
  rw [(h.perm hperm).count_eq_ite, h.count_eq_ite, hperm.prod_eq]

lemma orderFree_of_count_perm (h : ∀ other, other.Perm shape → count other = count shape) :
    OrderFree shape := by
  by_contra hnot
  obtain ⟨hzero, hfilter⟩ := not_or.mp hnot
  rw [not_not] at hzero
  rw [Nat.not_lt] at hfilter
  have hfirst : count (0 :: shape.erase 0) = .ok (0 :: shape.erase 0).prod := by
    apply count_of_lt
    rw [beforeZero, List.takeWhile_cons_of_neg (by decide)]
    decide
  have hlast : count (shape.filter (· ≠ 0) ++ shape.filter fun n => !decide (n ≠ 0)) =
      .error (.overflow "shape") := by
    apply count_of_le
    rw [beforeZero, List.takeWhile_append_of_pos fun n hn => (List.mem_filter.mp hn).2,
      List.prod_append]
    exact Nat.le_trans hfilter (Nat.le_mul_of_pos_right _ (prod_beforeZero_pos _))
  have hfirst' := h _ (List.perm_cons_erase hzero).symm
  have hlast' := h _ (List.filter_append_perm (· ≠ 0) shape)
  rw [hfirst] at hfirst'
  rw [hlast, ← hfirst'] at hlast'
  cases hlast'

lemma count_perm_iff : (∀ other, other.Perm shape → count other = count shape) ↔ OrderFree shape :=
  ⟨orderFree_of_count_perm, fun h _ hperm => h.count_perm hperm⟩

end Shape

namespace Strided

open Json Shape

variable {α : Type} {shape other : List Nat} {n : Nat}

lemma ofFn_eq_ok_iff [Stored α] {f : Nat → α} {v : Strided α} : ofFn shape f = .ok (.ok v) ↔
    ∃ n, count shape = .ok n ∧ Capacity.checkBuffer α n = .ok () ∧
      v = ofParts ((List.range n).map f) shape .rowMajor := by
  simp only [ofFn, bind_eq_ok]
  constructor
  · rintro ⟨n, hcount, h⟩
    obtain ⟨u, hroom, h⟩ := bind_eq_ok.mp (Except.ok.inj h)
    exact ⟨n, hcount, hroom, (Except.ok.inj h).symm⟩
  · rintro ⟨n, hcount, hroom, rfl⟩
    refine ⟨n, hcount, ?_⟩
    rw [hroom]
    rfl

lemma exists_withLayout_iff {data : List α} {layout : Layout} :
    (∃ v, withLayout data shape layout = .ok v) ↔ count shape = .ok data.length := by
  simp only [withLayout_eq_ok_iff, exists_and_left, exists_eq, and_true]

lemma exists_ofFn_iff [Stored α] {f : Nat → α} : (∃ v, ofFn shape f = .ok (.ok v)) ↔
    ∃ n, count shape = .ok n ∧ Capacity.checkBuffer α n = .ok () := by
  simp only [ofFn_eq_ok_iff]
  constructor
  · rintro ⟨v, n, hcount, hroom, -⟩
    exact ⟨n, hcount, hroom⟩
  · rintro ⟨n, hcount, hroom⟩
    exact ⟨_, n, hcount, hroom, rfl⟩

lemma exists_decode_iff [Codec α] {source : Source} {l d : Json}
    (hwords : ∀ n ∈ shape, n < wordSize) :
    (∃ v : Strided α, decode source (encodeParts shape l d) = .ok v) ↔
      ∃ layout data, decode source l = (.ok layout : Decoded Layout) ∧
        decode source d = (.ok data : Decoded (List α)) ∧ count shape = .ok data.length := by
  have hread : decode source (encodeParts shape l d) = (do
      let layout ← (decode source l : Decoded Layout)
      let data ← (decode source d : Decoded (List α))
      Json.accept (withLayout data shape layout) : Decoded (Strided α)) := by
    rw [decode_encodeParts,
      readMembersOf_ok { shape := some shape } rfl (by decide) (by simp [decode_shape hwords])]
    cases hlayout : (decode source l : Decoded Layout) with
    | error e =>
      rw [readMembersOf_error (e := e) rfl (by decide) (by simp [hlayout])]
      rfl
    | ok layout =>
      rw [readMembersOf_ok { shape := some shape, layout := layout } rfl (by decide)
        (by simp [hlayout])]
      cases hdata : (decode source d : Decoded (List α)) with
      | error e =>
        rw [readMembersOf_error (e := e) rfl (by decide) (by simp [hdata])]
        rfl
      | ok data =>
        rw [readMembersOf_ok { shape := some shape, layout := layout, data := some data }
          rfl (by decide) (by simp [hdata])]
        rfl
  simp only [hread, bind_eq_ok, accept_eq_ok_iff, withLayout_eq_ok_iff]
  constructor
  · rintro ⟨v, layout, hlayout, data, hdata, hcount, -⟩
    exact ⟨layout, data, hlayout, hdata, hcount⟩
  · rintro ⟨layout, data, hlayout, hdata, hcount⟩
    exact ⟨_, layout, hlayout, data, hdata, hcount, rfl⟩

end Strided

namespace Shape

/-- The count is the product of the extents, refused exactly if those before the first zero leave
the word. All orders of the extents agree, and so does all that counts them, as long as there is no
zero or the others stay in the word. -/
theorem count_product (shape : List Nat) :
    count shape =
      (if (beforeZero shape).prod < wordSize then .ok shape.prod else .error (.overflow "shape")) ∧
    (OrderFree shape → count shape =
      if shape.prod < wordSize then .ok shape.prod else .error (.overflow "shape")) ∧
    ((∀ other, other.Perm shape → count other = count shape) ↔ OrderFree shape) ∧
    (OrderFree shape → ∀ other, other.Perm shape → ∀ (α : Type) [Element α],
      (∀ (data : List α), (∃ v, Strided.ofData data other = .ok v) ↔
        ∃ v, Strided.ofData data shape = .ok v) ∧
      (∀ (data : List α) layout, (∃ v, Strided.withLayout data other layout = .ok v) ↔
        ∃ v, Strided.withLayout data shape layout = .ok v) ∧
      ((∃ v : Strided α, Strided.blank other = .ok (.ok v)) ↔
        ∃ v : Strided α, Strided.blank shape = .ok (.ok v)) ∧
      (∀ f : Nat → α, (∃ v, Strided.ofFn other f = .ok (.ok v)) ↔
        ∃ v, Strided.ofFn shape f = .ok (.ok v)) ∧
      ((∀ n ∈ shape, n < wordSize) → ∀ source layout data,
        (∃ v : Strided α, decode source (Strided.encodeParts other layout data) = .ok v) ↔
          ∃ v : Strided α, decode source (Strided.encodeParts shape layout data) = .ok v)) := by
  refine ⟨count_eq shape, OrderFree.count_eq_ite, count_perm_iff, ?_⟩
  intro h other hperm α _
  have hcount := h.count_perm hperm
  refine ⟨?_, ?_, ?_, ?_, ?_⟩
  · intro data
    rw [Strided.ofData, Strided.ofData, Strided.exists_withLayout_iff, hcount,
      Strided.exists_withLayout_iff]
  · intro data layout
    rw [Strided.exists_withLayout_iff, hcount, Strided.exists_withLayout_iff]
  · rw [Strided.blank, Strided.replicate, Strided.exists_ofFn_iff, hcount,
      ← Strided.exists_ofFn_iff]
    rfl
  · intro f
    rw [Strided.exists_ofFn_iff, hcount, Strided.exists_ofFn_iff]
  · intro hwords source layout data
    have hwords' : ∀ n ∈ other, n < wordSize := fun n hn => hwords n (hperm.mem_iff.mp hn)
    rw [Strided.exists_decode_iff hwords', hcount, Strided.exists_decode_iff hwords]

theorem count_zero_last :
    [Nat.pow 2 63, 4, 0].prod = 0 ∧ count [Nat.pow 2 63, 4, 0] = .error (.overflow "shape") ∧
      count [0, Nat.pow 2 63, 4] = .ok 0 ∧ ¬ ∀ shape, shape.prod < wordSize →
        count shape = .ok shape.prod := by
  refine ⟨rfl, rfl, rfl, ?_⟩
  intro h
  cases h [Nat.pow 2 63, 4, 0] (by decide)

end Shape

end Columnar
