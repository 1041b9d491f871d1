import Columnar.Proofs.Grid.Writes

/-! Rows of one length, and nested arrays of fixed extents, are laid one after the other; the cell
at an index is the one that is found by going down the levels. -/

namespace Columnar

namespace Shape

variable {shape strides index : List Nat} {o : Nat}

lemma tail_prod_le (h : InBounds shape index) : shape.tail.prod ≤ shape.prod := by
  cases h with
  | nil => exact Nat.le_refl _
  | cons hi _ =>
    rw [List.tail_cons, List.prod_cons]
    exact Nat.le_mul_of_pos_left _ (Nat.zero_lt_of_lt hi)

lemma offsetFrom_rowMajor (hwords : shape.tail.prod < wordSize) (h : InBounds shape index) :
    offsetFrom o shape (Shape.strides shape .rowMajor) index = some (o + lexRank shape index) := by
  induction h generalizing o with
  | nil => rfl
  | @cons i extent index shape hi htail ih =>
    rw [List.tail_cons] at hwords
    -- every extent is positive, so the strides to come are no longer than this one
    have hnext : shape.tail.prod < wordSize := Nat.lt_of_le_of_lt (tail_prod_le htail) hwords
    rw [strides_rowMajor_cons, Nat.mod_eq_of_lt hwords, offsetFrom, if_pos hi, ih hnext, lexRank,
      Nat.add_assoc]

lemma length_strides (shape : List Nat) :
    (Shape.strides shape .rowMajor).length = shape.length := by
  induction shape with
  | nil => rfl
  | cons extent shape ih => rw [strides_rowMajor_cons, List.length_cons, List.length_cons, ih]

lemma offsetFrom_eq_none (hstrides : strides.length = shape.length)
    (hindex : index.length = shape.length)
    (h : ¬InBounds shape index) : offsetFrom o shape strides index = none := by
  induction shape generalizing strides index o with
  | nil =>
    obtain rfl := List.length_eq_zero_iff.mp hindex
    exact absurd .nil h
  | cons extent shape ih =>
    obtain ⟨stride, strides, rfl⟩ := List.exists_cons_of_length_eq_add_one hstrides
    obtain ⟨i, index, rfl⟩ := List.exists_cons_of_length_eq_add_one hindex
    rw [offsetFrom]
    split
    case isTrue hi =>
      exact ih (Nat.succ.inj hstrides) (Nat.succ.inj hindex) fun htail => h (.cons hi htail)
    case isFalse => rfl

lemma offset?_rowMajor (hwords : shape.tail.prod < wordSize) (h : InBounds shape index) :
    offset? shape (Shape.strides shape .rowMajor) index = some (lexRank shape index) := by
  rw [offset?, if_pos h.length_eq, offsetFrom_rowMajor hwords h, Nat.zero_add]

lemma offset?_rowMajor_eq_none (h : ¬InBounds shape index) :
    offset? shape (Shape.strides shape .rowMajor) index = none := by
  rw [offset?]
  split
  case isTrue hindex => exact offsetFrom_eq_none (length_strides shape) hindex h
  case isFalse => rfl

end Shape

namespace Strided

open Shape

variable {α : Type} {data : List α} {shape : List Nat} {rows : List (List α)} {columns i j : Nat}

lemma get?_ofParts_rowMajor {cell : List Nat → Option α}
    (hwords : ∀ index, InBounds shape index → shape.tail.prod < wordSize)
    (hcell : ∀ index, InBounds shape index → data[lexRank shape index]? = cell index)
    (hbounds : ∀ index a, cell index = some a → InBounds shape index) (index : List Nat) :
    (ofParts data shape .rowMajor).get? index = cell index := by
  by_cases h : InBounds shape index
  · have hoffset := offset?_rowMajor (hwords index h) h
    exact (get?_of_offset (v := ofParts data shape .rowMajor) hoffset).trans (hcell index h)
  · have hoffset := offset?_rowMajor_eq_none h
    have hnone : cell index = none :=
      Option.eq_none_iff_forall_ne_some.mpr fun a ha => h (hbounds index a ha)
    exact (get?_of_no_offset (v := ofParts data shape .rowMajor) hoffset).trans hnone.symm

lemma getElem?_flatten (h : ∀ row ∈ rows, row.length = columns) (hj : j < columns) :
    rows.flatten[i * columns + j]? = rows[i]? >>= fun row => row[j]? := by
  induction rows generalizing i with
  | nil => rfl
  | cons row rows ih =>
    obtain ⟨hrow, hrows⟩ := List.forall_mem_cons.mp h
    rw [List.flatten_cons]
    cases i with
    | zero =>
      rw [Nat.zero_mul, Nat.zero_add, List.getElem?_append_left (hrow ▸ hj)]
      rfl
    | succ i =>
      have hskip : (i + 1) * columns + j = row.length + (i * columns + j) := by
        rw [hrow, Nat.add_mul, Nat.one_mul]
        omega
      rw [hskip, List.getElem?_append_right (Nat.le_add_right ..),
        Nat.add_sub_cancel_left, ih hrows]
      rfl

def FirstUneven (rows : List (List α)) (row : List α) : Prop :=
  ∃ before after, rows = before ++ row :: after ∧ (∀ r ∈ before, r.length = width rows) ∧
    row.length ≠ width rows

def HasRoom (α : Type) [Stored α] (n : Nat) : Prop :=
  n < wordSize ∧ n * Stored.bytes α < Nat.pow 2 63

instance (α : Type) [Stored α] (n : Nat) : Decidable (HasRoom α n) :=
  inferInstanceAs (Decidable (_ ∧ _))

def noRoom (n : Nat) : OutOfBounds := if n < wordSize then .buffer else .product

def rowCell (rows : List (List α)) : List Nat → Option α
  | [i, j] => rows[i]? >>= fun row => row[j]?
  | _ => none

lemma joinRows_of_length {count : Nat} (h : ∀ row ∈ rows, row.length = columns) :
    joinRows count columns rows = .ok rows.flatten := by
  induction rows with
  | nil => rfl
  | cons row rows ih =>
    obtain ⟨hrow, hrows⟩ := List.forall_mem_cons.mp h
    rw [joinRows, if_neg (not_not.mpr hrow), ih hrows]
    rfl

lemma joinRows_of_first {count : Nat} {before after : List (List α)} {row : List α}
    (hrows : rows = before ++ row :: after) (hbefore : ∀ r ∈ before, r.length = columns)
    (hrow : row.length ≠ columns) :
    joinRows count columns rows =
      .error (.shapeMismatch "rows" [count, columns] columns row.length) := by
  subst hrows
  induction before with
  | nil =>
    rw [List.nil_append, joinRows, if_pos hrow]
    rfl
  | cons r before ih =>
    obtain ⟨hr, hbefore⟩ := List.forall_mem_cons.mp hbefore
    rw [List.cons_append, joinRows, if_neg (not_not.mpr hr), ih hbefore]
    rfl

lemma exists_firstUneven (h : ¬∀ row ∈ rows, row.length = width rows) :
    ∃ row, FirstUneven rows row := by
  simp only [not_forall] at h
  obtain ⟨row, hrow, hlength⟩ := h
  obtain ⟨first, before, after, hbefore, hfirst, hrows, -⟩ :=
    List.exists_of_eraseP (p := fun row => row.length ≠ width rows) hrow (decide_eq_true hlength)
  exact ⟨first, before, after, hrows, fun r hr => by simpa using hbefore r hr,
    of_decide_eq_true hfirst⟩

lemma length_flatten (h : ∀ row ∈ rows, row.length = columns) :
    rows.flatten.length = rows.length * columns := by
  rw [List.length_flatten, List.map_congr_left h, List.map_const', List.sum_replicate]
  rfl

section Room

variable [Stored α] {row : List α} {v : Strided α}

lemma ofRows_of_room (h : HasRoom α (rows.length * width rows)) : ofRows rows = .ok (do
    let data ← joinRows rows.length (width rows) rows
    return ofParts data [rows.length, width rows] .rowMajor) := by
  obtain ⟨hwords, hbytes⟩ := h
  rw [ofRows, area, if_pos hwords]
  change (Capacity.checkBuffer α _ >>= _) = _
  rw [Capacity.checkBuffer, if_pos hbytes]
  rfl

lemma ofRows_of_no_room (h : ¬HasRoom α (rows.length * width rows)) :
    ofRows rows = .error (noRoom (rows.length * width rows)) := by
  rw [ofRows, area, noRoom]
  split
  case isTrue hwords =>
    change (Capacity.checkBuffer α _ >>= _) = _
    rw [Capacity.checkBuffer, if_neg fun hbytes => h ⟨hwords, hbytes⟩]
    rfl
  case isFalse => rfl

lemma ofRows_of_length (h : ∀ row ∈ rows, row.length = width rows)
    (hroom : HasRoom α (rows.length * width rows)) :
    ofRows rows = .ok (.ok (ofParts rows.flatten [rows.length, width rows] .rowMajor)) := by
  rw [ofRows_of_room hroom, joinRows_of_length h]
  rfl

lemma ofRows_of_firstUneven (h : FirstUneven rows row)
    (hroom : HasRoom α (rows.length * width rows)) : ofRows rows =
      .ok (.error (.shapeMismatch "rows" [rows.length, width rows] (width rows) row.length)) := by
  obtain ⟨before, after, hrows, hbefore, hrow⟩ := h
  rw [ofRows_of_room hroom, joinRows_of_first hrows hbefore hrow]
  rfl

lemma ofRows_eq_ok_iff : ofRows rows = .ok (.ok v) ↔
    ((∀ row ∈ rows, row.length = width rows) ∧ HasRoom α (rows.length * width rows)) ∧
      v = ofParts rows.flatten [rows.length, width rows] .rowMajor := by
  by_cases hroom : HasRoom α (rows.length * width rows)
  · by_cases h : ∀ row ∈ rows, row.length = width rows
    · rw [ofRows_of_length h hroom, and_iff_right ⟨h, hroom⟩, Except.ok.injEq,
        Except.ok.injEq, eq_comm]
    · obtain ⟨row, hrow⟩ := exists_firstUneven h
      rw [ofRows_of_firstUneven hrow hroom]
      simp [h]
  · rw [ofRows_of_no_room hroom]
    simp [hroom]

end Room

lemma get?_flatten (h : ∀ row ∈ rows, row.length = columns)
    (hwords : rows.length * columns < wordSize) :
    ∀ index, (ofParts rows.flatten [rows.length, columns] .rowMajor).get? index =
      rowCell rows index := by
  apply get?_ofParts_rowMajor
  · intro index hindex
    exact Nat.lt_of_le_of_lt (tail_prod_le hindex) (by simpa using hwords)
  · intro index hindex
    cases hindex with | @cons i _ _ _ _ hindex =>
    cases hindex with | @cons j _ _ _ hj hindex =>
    cases hindex
    have hrank : lexRank [rows.length, columns] [i, j] = i * columns + j := by simp [lexRank]
    rw [hrank]
    exact getElem?_flatten h hj
  · intro index a hcell
    rw [rowCell.eq_def] at hcell
    split at hcell
    case h_1 i j =>
      obtain ⟨row, hrow, ha⟩ := Option.bind_eq_some_iff.mp hcell
      obtain ⟨hi, -⟩ := List.getElem?_eq_some_iff.mp hrow
      obtain ⟨hj, -⟩ := List.getElem?_eq_some_iff.mp ha
      rw [h row (List.mem_of_getElem? hrow)] at hj
      exact .cons hi (.cons hj .nil)
    case h_2 => cases hcell

end Strided

@[reducible] def Nested (α : Type) : List Nat → Type
  | [] => α
  | extent :: shape => Vector (Nested α shape) extent

namespace Nested

open Shape Strided

variable {α : Type} {shape index : List Nat} {x : α}

def cell : {shape : List Nat} → Nested α shape → List Nat → Option α
  | [], x, [] => some x
  | _ :: _, a, i :: index => a[i]? >>= fun b => b.cell index
  | _, _, _ => none

def flat : {shape : List Nat} → Nested α shape → List α
  | [], x => [x]
  | _ :: _, a => a.toList.flatMap flat

lemma length_flat (a : Nested α shape) : a.flat.length = shape.prod := by
  induction shape with
  | nil => rfl
  | cons extent shape ih =>
    have hrows : a.toList.map (fun b => b.flat.length) = List.replicate extent shape.prod := by
      rw [List.map_congr_left fun b _ => ih b, List.map_const', Vector.length_toList]
    rw [flat, List.length_flatMap, hrows, List.sum_replicate, List.prod_cons]
    rfl

lemma getElem?_flat (a : Nested α shape) (h : InBounds shape index) :
    a.flat[lexRank shape index]? = a.cell index := by
  induction shape generalizing index with
  | nil =>
    cases h
    rfl
  | cons extent shape ih =>
    cases h with | @cons i _ index _ hi h =>
    have hlength : ∀ row ∈ a.toList.map flat, row.length = shape.prod := by
      intro row hrow
      obtain ⟨b, -, rfl⟩ := List.mem_map.mp hrow
      exact b.length_flat
    rw [lexRank, flat, List.flatMap_def, getElem?_flatten hlength (lexRank_lt h), List.getElem?_map,
      Vector.getElem?_toList, cell]
    cases a[i]? with
    | none => rfl
    | some b => exact ih b h

lemma inBounds_of_cell (a : Nested α shape) (h : a.cell index = some x) : InBounds shape index := by
  induction shape generalizing index with
  | nil =>
    cases index with
    | nil => exact .nil
    | cons i index => cases h
  | cons extent shape ih =>
    cases index with
    | nil => cases h
    | cons i index =>
      obtain ⟨b, hb, hx⟩ := Option.bind_eq_some_iff.mp h
      obtain ⟨hi, -⟩ := Vector.getElem?_eq_some_iff.mp hb
      exact .cons hi (ih b hx)

lemma get?_flat (a : Nested α shape) (hwords : shape.prod < wordSize) (index : List Nat) :
    (ofParts a.flat shape .rowMajor).get? index = a.cell index :=
  get?_ofParts_rowMajor (fun _ h => Nat.lt_of_le_of_lt (tail_prod_le h) hwords)
    (fun _ => a.getElem?_flat) (fun _ _ => a.inBounds_of_cell) index

lemma toList_flatten {β : Type} {m n : Nat} (a : Vector (Vector β n) m) :
    a.flatten.toList = a.toList.flatMap Vector.toList := by
  change (a.toArray.map Vector.toArray).flatten.toList = _
  rw [Array.toList_flatten, Array.toList_map, List.map_map]
  rfl

lemma flat_flatten {m n : Nat} (a : Nested α (m :: n :: shape)) :
    a.flat = @flat α (m * n :: shape) a.flatten := by
  change a.toList.flatMap (fun b => b.toList.flatMap flat) = a.flatten.toList.flatMap flat
  rw [toList_flatten, List.flatMap_assoc]

lemma flat_row {n : Nat} (a : Nested α [n]) : a.flat = a.toList := List.flatMap_singleton' a.toList

/-- The array is seen cell for cell if all these counts are words, and refused otherwise. -/
structure SeenAs (a : Nested α shape) (counts : List Nat) (r : Except OutOfBounds (Strided α)) :
    Prop where
  seen : (∀ n ∈ counts, n < wordSize) → ∃ v, r = .ok v ∧ v.shape = shape ∧
    ∀ index, v.get? index = a.cell index
  refused : (∃ n ∈ counts, wordSize ≤ n) → r = .error .slice

lemma area_bind {β : Type} {e : OutOfBounds} {m n : Nat} {f : Nat → Except OutOfBounds β} :
    area e m n >>= f = if m * n < wordSize then f (m * n) else .error e := by
  rw [area]
  split
  · rfl
  · rfl

lemma seenAs_ite (a : Nested α shape) {counts : List Nat} {r : Except OutOfBounds (Strided α)}
    (hlast : shape.prod ∈ counts)
    (hr : r =
      if ∀ n ∈ counts, n < wordSize then .ok (ofParts a.flat shape .rowMajor)
      else .error .slice) :
    SeenAs a counts r where
  seen h := ⟨_, hr.trans (if_pos h), rfl, a.get?_flat (h _ hlast)⟩
  refused h := by
    obtain ⟨n, hn, hle⟩ := h
    exact hr.trans (if_neg fun hwords => Nat.not_lt.mpr hle (hwords n hn))

variable {q p r c : Nat}

lemma seenAs_ofNested2 (a : Nested α [r, c]) : SeenAs a [r * c] (ofNested2 a) := by
  apply seenAs_ite a (by simp)
  rw [ofNested2, area_bind, flat_flatten, flat_row]
  simp only [List.forall_mem_singleton]
  rfl

lemma seenAs_ofNested3 (a : Nested α [p, r, c]) : SeenAs a [p * r, p * r * c] (ofNested3 a) := by
  apply seenAs_ite a (by simp [Nat.mul_assoc])
  rw [ofNested3, area_bind, area_bind, flat_flatten, flat_flatten, flat_row]
  simp only [List.forall_mem_cons, ite_and]
  rfl

lemma seenAs_ofNested4 (a : Nested α [q, p, r, c]) :
    SeenAs a [q * p, q * p * r, q * p * r * c] (ofNested4 a) := by
  apply seenAs_ite a (by simp [Nat.mul_assoc])
  rw [ofNested4, area_bind, area_bind, area_bind, flat_flatten, flat_flatten,
    flat_flatten, flat_row]
  simp only [List.forall_mem_cons, ite_and]
  rfl

end Nested

namespace Strided

open Shape Nested

variable {α : Type} [Stored α]

lemma not_hasRoom_of_le {n : Nat} (h : 2 ^ 63 ≤ n * Stored.bytes α) : ¬HasRoom α n :=
  fun hroom => Nat.not_lt.mpr h hroom.2

end Strided

end Columnar
