import Columnar.Proofs.Grid.Offsets

/-! No two indices share a place, so a write reaches the one cell that it is meant for. -/

namespace Columnar.Strided

open Shape

variable {α : Type} {v u : Strided α} {data : List α} {shape index j : List Nat} {layout : Layout}
  {i : Nat} {a : α}

inductive Made [Element α] : Strided α → Prop
  | ofData {data : List α} {shape : List Nat} {v : Strided α} (h : ofData data shape = .ok v) :
    Made v
  | withLayout {data : List α} {shape : List Nat} {layout : Layout} {v : Strided α}
    (h : withLayout data shape layout = .ok v) : Made v
  | blank {shape : List Nat} {v : Strided α} (h : blank shape = .ok (.ok v)) : Made v
  | ofFn {shape : List Nat} {f : Nat → α} {v : Strided α} (h : ofFn shape f = .ok (.ok v)) : Made v
  | ofRows {rows : List (List α)} {v : Strided α} (hrows : rows.length < wordSize)
    (h : ofRows rows = .ok (.ok v)) : Made v
  | decoded {source : Json.Source} {json : Json} {v : Strided α} (h : decode source json = .ok v) :
    Made v

def Write.result (w : Write α) (v : Strided α) : Strided α :=
  match w.perform.run v with
  | .ok _ u => u
  | .error _ u => u

def afterWrites (v : Strided α) (writes : List (Write α)) : Strided α :=
  writes.foldl (fun v w => w.result v) v

structure WellFormed (v : Strided α) : Prop where
  count : Shape.count v.shape = .ok v.data.length
  strides : v.strides = Shape.strides v.shape v.layout

lemma wellFormed_ofParts (h : Shape.count shape = .ok data.length) :
    (ofParts data shape layout).WellFormed where
  count := h
  strides := rfl

lemma wellFormed_withLayout (h : Strided.withLayout data shape layout = .ok v) : v.WellFormed := by
  obtain ⟨hcount, rfl⟩ := withLayout_eq_ok_iff.mp h
  exact wellFormed_ofParts hcount

lemma wellFormed_ofFn [Stored α] {f : Nat → α} (h : Strided.ofFn shape f = .ok (.ok v)) :
    v.WellFormed := by
  obtain ⟨n, hcount, h⟩ := bind_eq_ok.mp h
  obtain ⟨_, -, h⟩ := bind_eq_ok.mp (Except.ok.inj h)
  cases h
  apply wellFormed_ofParts
  rw [hcount, List.length_map, List.length_range]

lemma length_of_joinRows {count columns : Nat} {rows : List (List α)}
    (h : joinRows count columns rows = .ok data) :
    data = rows.flatten ∧ data.length = rows.length * columns := by
  induction rows generalizing data with
  | nil =>
    cases h
    exact ⟨rfl, (Nat.zero_mul columns).symm⟩
  | cons row rows ih =>
    rw [joinRows] at h
    split at h
    case isTrue => cases h
    case isFalse hrow =>
      obtain ⟨rest, hrest, h⟩ := bind_eq_ok.mp h
      cases h
      obtain ⟨rfl, hlength⟩ := ih hrest
      refine ⟨rfl, ?_⟩
      rw [List.length_append, hlength, not_not.mp hrow, List.length_cons, Nat.succ_mul,
        Nat.add_comm]

lemma count_rows {rows columns : Nat} (hrows : rows < wordSize)
    (hcells : rows * columns < wordSize) :
    Shape.count [rows, columns] = .ok (rows * columns) := by
  simp [Shape.count, countFrom, hrows, hcells]

lemma area_eq_ok_iff {e : OutOfBounds} {rows columns n : Nat} :
    area e rows columns = .ok n ↔ rows * columns < wordSize ∧ n = rows * columns := by
  rw [area]
  split
  case isTrue h => simp [h, eq_comm]
  case isFalse h => simp [h]

lemma wellFormed_ofRows [Stored α] {rows : List (List α)} (hrows : rows.length < wordSize)
    (h : Strided.ofRows rows = .ok (.ok v)) : v.WellFormed := by
  obtain ⟨n, harea, h⟩ := bind_eq_ok.mp h
  obtain ⟨hcells, -⟩ := area_eq_ok_iff.mp harea
  obtain ⟨_, -, h⟩ := bind_eq_ok.mp h
  obtain ⟨data, hdata, h⟩ := bind_eq_ok.mp (Except.ok.inj h)
  cases h
  obtain ⟨rfl, hlength⟩ := length_of_joinRows hdata
  apply wellFormed_ofParts
  rw [hlength]
  exact count_rows hrows hcells

lemma wellFormed_decode [Element α] {source : Json.Source} {json : Json}
    (h : decode source json = .ok v) : v.WellFormed := by
  obtain ⟨parts, -, h⟩ := bind_eq_ok.mp h
  cases hshape : parts.shape with
  | none => simp [hshape] at h
  | some shape =>
    cases hdata : parts.data with
    | none => simp [hshape, hdata] at h
    | some data =>
      simp only [hshape, hdata] at h
      exact wellFormed_withLayout (Json.accept_eq_ok_iff.mp h)

lemma Made.wellFormed [Element α] (h : Made v) : v.WellFormed := by
  cases h with
  | ofData h => exact wellFormed_withLayout h
  | withLayout h => exact wellFormed_withLayout h
  | blank h => exact wellFormed_ofFn h
  | ofFn h => exact wellFormed_ofFn h
  | ofRows hrows h => exact wellFormed_ofRows hrows h
  | decoded h => exact wellFormed_decode h

lemma setPlace_of_lt (h : i < v.data.length) :
    v.setPlace i a = .ok { v with data := v.data.set i a } := by
  rw [setPlace, setPosition, if_pos h]
  rfl

lemma setPlace_of_le (h : v.data.length ≤ i) :
    v.setPlace i a = .error (.position v.data.length i) := by
  rw [setPlace, setPosition, if_neg (Nat.not_lt.mpr h)]
  rfl

lemma set_of_offset (h : v.offset? index = some i) : v.set index a = v.setPlace i a := by
  rw [set, h]

lemma set_of_no_offset (h : v.offset? index = none) :
    v.set index a = .error (.cell index v.shape) := by
  rw [set, h]

lemma set?_eq_toOption : v.set? index a = (v.set index a).toOption := by
  rw [set?, set]
  cases v.offset? index with
  | none => rfl
  | some i => rfl

def SameForm (v u : Strided α) : Prop :=
  ∃ data, data.length = v.data.length ∧ u = { v with data := data }

lemma sameForm_setPlace (h : v.setPlace i a = .ok u) : v.SameForm u := by
  by_cases hi : i < v.data.length
  · rw [setPlace_of_lt hi] at h
    exact ⟨_, List.length_set, (Except.ok.inj h).symm⟩
  · rw [setPlace_of_le (Nat.le_of_not_lt hi)] at h
    cases h

lemma sameForm_set (h : v.set index a = .ok u) : v.SameForm u := by
  cases hoffset : v.offset? index with
  | none =>
    rw [set_of_no_offset hoffset] at h
    cases h
  | some i =>
    rw [set_of_offset hoffset] at h
    exact sameForm_setPlace h

lemma run_put (x : Except OutOfBounds (Strided α)) (v : Strided α) :
    (do
      let u ← ofExcept x
      MonadState.set u
      return true : Change α Bool).run v =
      match x with
      | .ok u => .ok true u
      | .error e => .error e v := by
  cases x with
  | ok u => rfl
  | error e => rfl

lemma run_place : (Write.place i a).perform.run v =
    match v.setPlace i a with
    | .ok u => .ok true u
    | .error e => .error e v := run_put (v.setPlace i a) v

lemma run_cell : (Write.cell index a).perform.run v =
    match v.set index a with
    | .ok u => .ok true u
    | .error e => .error e v := run_put (v.set index a) v

lemma run_cell? : (Write.cell? index a).perform.run v =
    match v.set index a with
    | .ok u => .ok true u
    | .error _ => .ok false v := by
  have hset : v.set? index a = (v.set index a).toOption := set?_eq_toOption
  cases h : v.set index a with
  | ok u =>
    rw [h] at hset
    simp only [Write.perform, EStateM.run_bind, EStateM.run_get, hset, Except.toOption]
    rfl
  | error e =>
    rw [h] at hset
    simp only [Write.perform, EStateM.run_bind, EStateM.run_get, hset, Except.toOption]
    rfl

lemma run_fill : (Write.fill a).perform.run v = .ok true (v.fill a) := rfl

/-- The write is refused and leaves the array as it is, or it changes nothing but the contents. -/
def Write.Confined (w : Write α) (v : Strided α) : Prop :=
  (∃ e, w.perform.run v = .error e v) ∨ ∃ found u, v.SameForm u ∧ w.perform.run v = .ok found u

lemma run_span_of_confined {w : Write α} (h : w.Confined v) :
    (Write.span w).perform.run v = w.perform.run v := by
  have hspan : (Write.span w).perform.run v =
      match w.perform.run v with
      | .ok found s => .ok found { v with data := s.data }
      | .error e s => .error e { v with data := s.data } := rfl
  rcases h with ⟨e, hrun⟩ | ⟨found, u, ⟨data, -, rfl⟩, hrun⟩
  · rw [hspan, hrun]
  · rw [hspan, hrun]

lemma Write.confined (w : Write α) (v : Strided α) : w.Confined v := by
  induction w with
  | cell? index a =>
    rw [Confined, run_cell?]
    cases h : v.set index a with
    | ok u => exact .inr ⟨true, u, sameForm_set h, rfl⟩
    | error e => exact .inr ⟨false, v, ⟨v.data, rfl, rfl⟩, rfl⟩
  | cell index a =>
    rw [Confined, run_cell]
    cases h : v.set index a with
    | ok u => exact .inr ⟨true, u, sameForm_set h, rfl⟩
    | error e => exact .inl ⟨e, rfl⟩
  | place i a =>
    rw [Confined, run_place]
    cases h : v.setPlace i a with
    | ok u => exact .inr ⟨true, u, sameForm_setPlace h, rfl⟩
    | error e => exact .inl ⟨e, rfl⟩
  | fill a => exact .inr ⟨true, v.fill a, ⟨_, List.length_map _, rfl⟩, run_fill⟩
  | span w ih =>
    rw [Confined, run_span_of_confined ih]
    exact ih

lemma run_span (w : Write α) (v : Strided α) : (Write.span w).perform.run v = w.perform.run v :=
  run_span_of_confined (w.confined v)

lemma Write.sameForm_result (w : Write α) (v : Strided α) : v.SameForm (w.result v) := by
  rcases w.confined v with ⟨e, hrun⟩ | ⟨found, u, hform, hrun⟩
  · rw [result, hrun]
    exact ⟨v.data, rfl, rfl⟩
  · rw [result, hrun]
    exact hform

lemma SameForm.trans {w : Strided α} (h : v.SameForm u) (h' : u.SameForm w) : v.SameForm w := by
  obtain ⟨data, hlength, rfl⟩ := h
  obtain ⟨data', hlength', rfl⟩ := h'
  exact ⟨data', hlength'.trans hlength, rfl⟩

lemma sameForm_afterWrites (v : Strided α) (writes : List (Write α)) :
    v.SameForm (v.afterWrites writes) := by
  induction writes generalizing v with
  | nil => exact ⟨v.data, rfl, rfl⟩
  | cons w writes ih => exact (w.sameForm_result v).trans (ih (w.result v))

lemma SameForm.wellFormed (h : v.SameForm u) (hv : v.WellFormed) : u.WellFormed := by
  obtain ⟨data, hlength, rfl⟩ := h
  exact ⟨hv.count.trans (congrArg _ hlength.symm), hv.strides⟩

namespace WellFormed

lemma length_eq_prod (h : v.WellFormed) : v.data.length = v.shape.prod :=
  (prod_of_count h.count).1.symm

lemma offset?_eq_some_iff (h : v.WellFormed) :
    v.offset? index = some i ↔ InBounds v.shape index ∧ i = place v.layout v.shape index := by
  rw [offset?, h.strides]
  exact (offset?_strides v.layout h.count index).2 i

lemma offset?_eq_none (h : v.WellFormed) (hindex : ¬ InBounds v.shape index) :
    v.offset? index = none := by
  rw [Option.eq_none_iff_forall_ne_some]
  intro i hi
  exact hindex (h.offset?_eq_some_iff.mp hi).1

lemma lt_of_offset? (h : v.WellFormed) (hi : v.offset? index = some i) : i < v.data.length := by
  obtain ⟨hindex, rfl⟩ := h.offset?_eq_some_iff.mp hi
  rw [h.length_eq_prod]
  exact place_lt hindex

lemma eq_of_offset? (h : v.WellFormed) (hindex : v.offset? index = some i)
    (hj : v.offset? j = some i) :
    j = index := by
  obtain ⟨hinj, hplacej⟩ := h.offset?_eq_some_iff.mp hj
  obtain ⟨hin, hplace⟩ := h.offset?_eq_some_iff.mp hindex
  exact eq_of_place_eq hinj hin (hplacej.symm.trans hplace)

end WellFormed

lemma get?_of_offset (h : v.offset? index = some i) : v.get? index = v.data[i]? := by
  rw [get?, h]
  rfl

lemma get?_of_no_offset (h : v.offset? index = none) : v.get? index = none := by
  rw [get?, h]
  rfl

section Write

variable (hv : v.WellFormed) (hi : v.offset? index = some i)

include hv hi

lemma get?_set_self : ({ v with data := v.data.set i a } : Strided α).get? index = some a :=
  (get?_of_offset (v := { v with data := v.data.set i a }) hi).trans
    (List.getElem?_set_self (hv.lt_of_offset? hi))

lemma get?_set_ne (hj : j ≠ index) :
    ({ v with data := v.data.set i a } : Strided α).get? j = v.get? j := by
  cases hoffset : v.offset? j with
  | none =>
    rw [get?_of_no_offset hoffset]
    exact get?_of_no_offset (v := { v with data := v.data.set i a }) hoffset
  | some k =>
    have hne : i ≠ k := by
      rintro rfl
      exact hj (hv.eq_of_offset? hi hoffset)
    rw [get?_of_offset hoffset, ← List.getElem?_set_ne (a := a) hne]
    exact get?_of_offset (v := { v with data := v.data.set i a }) hoffset

end Write

lemma get_eq_of_get? (hshape : u.shape = v.shape) (h : u.get? j = v.get? j) :
    u.get j = v.get j := by
  rw [get, get, h, hshape]

lemma get_of_get? (h : v.get? index = some a) : v.get index = .ok a := by
  rw [get, h]

lemma get_of_get?_none (h : v.get? index = none) : v.get index = .error (.cell index v.shape) := by
  rw [get, h]

lemma get?_fill (hv : v.WellFormed) (h : InBounds v.shape index) :
    (v.fill a).get? index = some a := by
  have hi := hv.offset?_eq_some_iff.mpr ⟨h, rfl⟩
  have hlt := hv.lt_of_offset? hi
  rw [get?_of_offset (v := v.fill a) hi, fill, List.getElem?_map, List.getElem?_eq_getElem hlt]
  rfl

theorem write_reaches_one_cell [Element α] {made : Strided α} {writes : List (Write α)}
    (hmade : Made made) (hv : made.afterWrites writes = v) :
    (v.data.length = v.shape.prod ∧ v.strides = Shape.strides v.shape v.layout ∧
      v.shape = made.shape ∧ v.layout = made.layout) ∧
    (∀ index a, InBounds v.shape index → ∃ i u, v.offset? index = some i ∧
      (Write.cell? index a).perform.run v = .ok true u ∧
      (Write.cell index a).perform.run v = .ok true u ∧
      (Write.place i a).perform.run v = .ok true u ∧
      u.get? index = some a ∧ u.get index = .ok a ∧
      ∀ j, j ≠ index → u.get? j = v.get? j ∧ u.get j = v.get j) ∧
    (∀ index, ¬ InBounds v.shape index → ∃ e : OutOfBounds,
      e.message = "index " ++ Decimal.listed index ++ " out of bounds for shape " ++
        Decimal.listed v.shape ∧
      v.get? index = none ∧ v.get index = .error e ∧
      ∀ a, (Write.cell? index a).perform.run v = .ok false v ∧
        (Write.cell index a).perform.run v = .error e v) ∧
    (∀ i < v.data.length, ∃ index, v.offset? index = some i) ∧
    (∀ i a, v.data.length ≤ i →
      (Write.place i a).perform.run v = .error (.position v.data.length i) v) ∧
    (∀ a, (Write.fill a).perform.run v = .ok true (v.fill a) ∧
      ∀ index, InBounds v.shape index → (v.fill a).get? index = some a) ∧
    (∀ w, (Write.span w).perform.run v = w.perform.run v) ∧
    ∀ index, v.span.get? index = v.get? index ∧ v.span.get index = v.get index := by
  have hform : made.SameForm v := hv ▸ sameForm_afterWrites made writes
  have hwell := hform.wellFormed hmade.wellFormed
  refine ⟨?_, ?_, ?_, ?_, ?_, ?_, ?_, ?_⟩
  · obtain ⟨data, -, rfl⟩ := hform
    exact ⟨hwell.length_eq_prod, hwell.strides, rfl, rfl⟩
  · intro index a hindex
    have hi := hwell.offset?_eq_some_iff.mpr ⟨hindex, rfl⟩
    have hplace := setPlace_of_lt (a := a) (hwell.lt_of_offset? hi)
    have hcell := (set_of_offset hi).trans hplace
    have hself := get?_set_self (a := a) hwell hi
    refine ⟨_, _, hi, ?_, ?_, ?_, hself, get_of_get? hself, ?_⟩
    · rw [run_cell?, hcell]
    · rw [run_cell, hcell]
    · rw [run_place, hplace]
    · intro j hj
      have hother := get?_set_ne (a := a) hwell hi hj
      exact ⟨hother, get_eq_of_get? rfl hother⟩
  · intro index hindex
    have hoffset := hwell.offset?_eq_none hindex
    have hget := get?_of_no_offset hoffset
    refine ⟨.cell index v.shape, rfl, hget, get_of_get?_none hget, ?_⟩
    intro a
    have hcell := set_of_no_offset (a := a) hoffset
    constructor
    · rw [run_cell?, hcell]
    · rw [run_cell, hcell]
  · intro i hi
    rw [hwell.length_eq_prod] at hi
    obtain ⟨index, hindex, hplace⟩ := exists_place_eq v.layout hi
    exact ⟨index, hwell.offset?_eq_some_iff.mpr ⟨hindex, hplace.symm⟩⟩
  · intro i a hi
    rw [run_place, setPlace_of_le hi]
  · intro a
    exact ⟨run_fill, fun index hindex => get?_fill hwell hindex⟩
  · intro w
    exact run_span w v
  · intro index
    exact ⟨rfl, rfl⟩

theorem write_reaches_one_cell_columns :
    ∃ made v u : Strided Char, Made made ∧
      made.afterWrites [.cell? [1, 1] 'x', .cell [2, 0] 'y', .span (.place 0 'z')] = v ∧
      v.data = ['z', 'b', 'c', 'x', 'e', 'f'] ∧
      (Write.cell [0, 2] 'w').perform.run v = .ok true u ∧ u.get [0, 2] = .ok 'w' ∧
      u.get [1, 1] = v.get [1, 1] ∧ v.get [1, 1] = .ok 'x' := by
  have hmade : withLayout ['a', 'b', 'c', 'd', 'e', 'f'] [2, 3] .columnMajor =
      .ok (ofParts ['a', 'b', 'c', 'd', 'e', 'f'] [2, 3] .columnMajor) := rfl
  obtain ⟨-, hwrite, -⟩ := write_reaches_one_cell (.withLayout hmade)
    (Eq.refl (afterWrites _ [.cell? [1, 1] 'x', .cell [2, 0] 'y', .span (.place 0 'z')]))
  obtain ⟨i, u, -, -, hrun, -, -, hself, hother⟩ :=
    hwrite [0, 2] 'w' (.cons (by decide) (.cons (by decide) .nil))
  exact ⟨_, _, u, .withLayout hmade, rfl, rfl, hrun, hself, (hother [1, 1] (by decide)).2, rfl⟩

end Columnar.Strided
