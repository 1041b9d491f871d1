import Columnar.OrderedMap
import Mathlib.Data.List.Basic
import Mathlib.Data.List.Induction
import Mathlib.Data.List.Perm.Subperm
import Mathlib.Tactic.Lemma

/-! The entries of a map around a name: what stands before it and what stands behind it. -/

namespace Columnar.OrderedMap

variable {α : Type} {m n : OrderedMap α} {k : String} {a b : α} {before after : List (String × α)}

lemma eq_of_entries (h : m.entries = n.entries) : m = n := by
  cases m
  cases n
  cases h
  rfl

lemma mem_iff_exists_entries :
    k ∈ m ↔ ∃ before a after, m.entries = before ++ (k, a) :: after := by
  constructor
  · intro h
    obtain ⟨⟨name, a⟩, he, rfl⟩ := List.mem_map.mp h
    obtain ⟨before, after, hentries⟩ := List.append_of_mem he
    exact ⟨before, a, after, hentries⟩
  · rintro ⟨before, a, after, hentries⟩
    apply List.mem_map.mpr
    exact ⟨(k, a), by simp [hentries], rfl⟩

lemma ne_of_mem_around (h : m.entries = before ++ (k, a) :: after) {e : String × α}
    (he : e ∈ before ++ after) : e.1 ≠ k := by
  have hnodup := m.nodup
  rw [h, List.map_append, List.map_cons, List.perm_middle.nodup_iff, ← List.map_append,
    List.nodup_cons] at hnodup
  intro hname
  exact hnodup.1 (List.mem_map.mpr ⟨e, he, hname⟩)

lemma ne_of_mem_before (h : m.entries = before ++ (k, a) :: after) {e : String × α}
    (he : e ∈ before) : e.1 ≠ k := ne_of_mem_around h (List.mem_append_left after he)

lemma ne_of_mem_after (h : m.entries = before ++ (k, a) :: after) {e : String × α}
    (he : e ∈ after) : e.1 ≠ k := ne_of_mem_around h (List.mem_append_right before he)

lemma not_mem_of_entries (h : m.entries = n.entries ++ (k, a) :: after) : k ∉ n := by
  intro hk
  obtain ⟨first, b, rest, hentries⟩ := mem_iff_exists_entries.mp hk
  rw [hentries, List.append_assoc, List.cons_append] at h
  exact ne_of_mem_after h (List.mem_append_right rest (List.mem_cons_self (a := (k, a)))) rfl

lemma find?_of_entries (h : m.entries = before ++ (k, a) :: after) : m.find? k = some a := by
  have hbefore : before.lookup k = none := by
    rw [List.lookup_eq_none_iff]
    intro e he
    rw [bne_iff_ne]
    exact (ne_of_mem_before h he).symm
  rw [find?, h, List.lookup_append, hbefore, List.lookup_cons_self]
  rfl

lemma find?_eq_some_iff :
    m.find? k = some a ↔ ∃ before after, m.entries = before ++ (k, a) :: after := by
  constructor
  · intro h
    obtain ⟨before, after, hentries, -⟩ := List.lookup_eq_some_iff.mp h
    exact ⟨before, after, hentries⟩
  · rintro ⟨before, after, hentries⟩
    exact find?_of_entries hentries

lemma mem_entries_iff : (k, a) ∈ m.entries ↔ m.find? k = some a := by
  rw [find?_eq_some_iff]
  exact List.mem_iff_append

lemma mem_keys_iff : k ∈ m.keys ↔ ∃ a, (k, a) ∈ m.entries := by simp [keys]

lemma eq_of_mem_entries (ha : (k, a) ∈ m.entries) (hb : (k, b) ∈ m.entries) : a = b := by
  rw [mem_entries_iff] at ha hb
  exact Option.some.inj (ha.symm.trans hb)

lemma eq_of_map_fst_eq {es fs : List (String × α)} (hes : es ⊆ m.entries) (hfs : fs ⊆ m.entries)
    (h : es.map Prod.fst = fs.map Prod.fst) : es = fs := by
  induction es generalizing fs with
  | nil => exact (List.map_eq_nil_iff.mp h.symm).symm
  | cons e es ih =>
    cases fs with
    | nil => cases h
    | cons e' fs =>
      obtain ⟨k, a⟩ := e
      obtain ⟨k', b⟩ := e'
      rw [List.map_cons, List.map_cons, List.cons.injEq] at h
      obtain ⟨rfl, hrest⟩ := h
      obtain ⟨ha, hes⟩ := List.cons_subset.mp hes
      obtain ⟨hb, hfs⟩ := List.cons_subset.mp hfs
      rw [eq_of_mem_entries ha hb, ih hes hfs hrest]

lemma indexOf?_of_entries (h : m.entries = before ++ (k, a) :: after) :
    m.indexOf? k = some before.length := by
  have hbefore : before.findIdx? (fun e => e.1 == k) = none := by
    rw [List.findIdx?_eq_none_iff]
    intro e he
    simpa using ne_of_mem_before h he
  rw [indexOf?, h, List.findIdx?_append, hbefore, List.findIdx?_cons]
  simp

lemma indexOf?_eq_none_iff : m.indexOf? k = none ↔ k ∉ m := by
  rw [← not_iff_not, not_not]
  constructor
  · intro h
    obtain ⟨place, hplace⟩ := Option.ne_none_iff_exists'.mp h
    obtain ⟨hlt, hname, -⟩ := List.findIdx?_eq_some_iff_getElem.mp hplace
    exact List.mem_map.mpr ⟨m.entries[place], List.getElem_mem hlt, by simpa using hname⟩
  · intro h
    obtain ⟨before, a, after, hentries⟩ := mem_iff_exists_entries.mp h
    simp [indexOf?_of_entries hentries]

lemma entries_insert_of_not_mem (h : k ∉ m) : (m.insert k b).entries = m.entries ++ [(k, b)] := by
  rw [insert, dif_neg h, push]

lemma map_around (h : m.entries = before ++ (k, a) :: after) {part : List (String × α)}
    (hpart : part ⊆ before ++ after) :
    part.map (fun e => (e.1, if e.1 = k then b else e.2)) = part := by
  conv_rhs => rw [← List.map_id part]
  apply List.map_congr_left
  intro e he
  simp [ne_of_mem_around h (hpart he)]

lemma entries_insert_of_entries (h : m.entries = before ++ (k, a) :: after) :
    (m.insert k b).entries = before ++ (k, b) :: after := by
  have hmem : k ∈ m := mem_iff_exists_entries.mpr ⟨before, a, after, h⟩
  have hbefore := map_around (b := b) h (List.subset_append_left before after)
  have hafter := map_around (b := b) h (List.subset_append_right before after)
  rw [insert, dif_pos hmem, mapValues]
  simp only [h, List.map_append, List.map_cons, if_true, hbefore, hafter]

lemma eq_entries_insert_iff {es : List (String × α)} :
    es = (m.insert k b).entries ↔
      k ∉ m ∧ es = m.entries ++ [(k, b)] ∨
        ∃ before a after, m.entries = before ++ (k, a) :: after ∧
          es = before ++ (k, b) :: after := by
  constructor
  · rintro rfl
    by_cases h : k ∈ m
    · obtain ⟨before, a, after, hentries⟩ := mem_iff_exists_entries.mp h
      exact .inr ⟨before, a, after, hentries, entries_insert_of_entries hentries⟩
    · exact .inl ⟨h, entries_insert_of_not_mem h⟩
  · rintro (⟨h, rfl⟩ | ⟨before, a, after, hentries, rfl⟩)
    · exact (entries_insert_of_not_mem h).symm
    · exact (entries_insert_of_entries hentries).symm

lemma entries_erase_of_entries (h : m.entries = before ++ (k, a) :: after) :
    (m.erase k).entries = before ++ after := by
  have hbefore : before.filter (fun e => e.1 ≠ k) = before :=
    List.filter_eq_self.mpr fun e he => by simpa using ne_of_mem_before h he
  have hafter : after.filter (fun e => e.1 ≠ k) = after :=
    List.filter_eq_self.mpr fun e he => by simpa using ne_of_mem_after h he
  change m.entries.filter (fun e => e.1 ≠ k) = before ++ after
  rw [h, List.filter_append, hbefore, List.filter_cons_of_neg (by simp), hafter]

lemma entries_insertAt_erase (h : m.entries = before ++ (k, a) :: after) {new : String}
    (hnew : new ∉ m.erase k) :
    ((m.erase k).insertAt before.length new b hnew).entries = before ++ (new, b) :: after := by
  change (m.erase k).entries.take before.length ++ (new, b) ::
    (m.erase k).entries.drop before.length = _
  rw [entries_erase_of_entries h, List.take_left, List.drop_left]

lemma foldl_insert_eq (h : m.entries = n.entries ++ after) :
    after.foldl (fun n (k, a) => n.insert k a) n = m := by
  induction after generalizing n with
  | nil => exact eq_of_entries (by rw [h, List.append_nil]; rfl)
  | cons e after ih =>
    obtain ⟨k, a⟩ := e
    apply ih
    rw [h, entries_insert_of_not_mem (not_mem_of_entries h), List.append_assoc,
      List.singleton_append]

lemma ofList_entries (m : OrderedMap α) : ofList m.entries = m :=
  foldl_insert_eq (List.nil_append m.entries).symm

lemma keys_insert (m : OrderedMap α) (k : String) (a : α) :
    (m.insert k a).keys = if k ∈ m then m.keys else m.keys ++ [k] := by
  rcases eq_entries_insert_iff.mp (rfl : (m.insert k a).entries = _) with
    ⟨h, hentries⟩ | ⟨before, b, after, h, hentries⟩
  · rw [if_neg h, keys, hentries, List.map_append]
    rfl
  · rw [if_pos (mem_iff_exists_entries.mpr ⟨before, b, after, h⟩), keys, keys, hentries, h]
    simp only [List.map_append, List.map_cons]

lemma find?_insert (m : OrderedMap α) (k name : String) (a : α) :
    (m.insert k a).find? name = if name = k then some a else m.find? name := by
  rcases eq_entries_insert_iff.mp (rfl : (m.insert k a).entries = _) with
    ⟨h, hentries⟩ | ⟨before, b, after, h, hentries⟩
  · by_cases hname : name = k
    · rw [if_pos hname, hname]
      exact find?_of_entries hentries
    · have hother : List.lookup name [(k, a)] = none := by simp [hname]
      rw [if_neg hname, find?, find?, hentries, List.lookup_append, hother, Option.or_none]
  · by_cases hname : name = k
    · rw [if_pos hname, hname]
      exact find?_of_entries hentries
    · have hother : ∀ c : α, List.lookup name ((k, c) :: after) = List.lookup name after := by
        intro c
        rw [List.lookup_cons, beq_eq_false_iff_ne.mpr hname]
      rw [if_neg hname, find?, find?, hentries, h, List.lookup_append, List.lookup_append,
        hother, hother]

lemma ofList_concat (es : List (String × α)) (e : String × α) :
    ofList (es ++ [e]) = (ofList es).insert e.1 e.2 := List.foldl_append

lemma keys_ofList (es : List (String × α)) : (ofList es).keys = (es.map Prod.fst).eraseDups := by
  induction es using List.reverseRecOn with
  | nil => rfl
  | append_singleton es e ih =>
    have hmem : e.1 ∈ ofList es ↔ e.1 ∈ es.map Prod.fst := by
      change e.1 ∈ (ofList es).keys ↔ _
      rw [ih, List.mem_eraseDups]
    rw [ofList_concat, keys_insert, ih, List.map_append, List.eraseDups_append]
    by_cases h : e.1 ∈ es.map Prod.fst
    · rw [if_pos (hmem.mpr h)]
      simp [List.removeAll, h]
    · rw [if_neg (mt hmem.mp h)]
      simp [List.removeAll, h, List.eraseDups_cons]

lemma find?_ofList (es : List (String × α)) (name : String) :
    (ofList es).find? name = es.reverse.lookup name := by
  induction es using List.reverseRecOn with
  | nil => rfl
  | append_singleton es e ih =>
    rw [ofList_concat, find?_insert, ih, List.reverse_append, List.reverse_singleton,
      List.singleton_append, List.lookup_cons]
    by_cases h : name = e.1
    · simp [h]
    · rw [if_neg h, beq_eq_false_iff_ne.mpr h]

lemma entries_ofList_subset (es : List (String × α)) : (ofList es).entries ⊆ es := by
  rintro ⟨k, a⟩ h
  rw [mem_entries_iff, find?_ofList] at h
  obtain ⟨before, after, hes, -⟩ := List.lookup_eq_some_iff.mp h
  have hmem : (k, a) ∈ es.reverse := by simp [hes]
  exact List.mem_reverse.mp hmem

lemma eraseDups_keys (m : OrderedMap α) : m.keys.eraseDups = m.keys := by
  rw [keys, ← keys_ofList, ofList_entries, keys]

lemma entries_ofList_iff {es : List (String × α)} :
    (ofList es).entries = es ↔ (es.map Prod.fst).Nodup := by
  constructor
  · intro h
    have hnodup := (ofList es).nodup
    rwa [h] at hnodup
  · intro h
    exact congrArg entries (ofList_entries ⟨es, h⟩)

lemma size_ofList_lt {es : List (String × α)} (h : ¬ (es.map Prod.fst).Nodup) :
    (ofList es).size < es.length := by
  have hsubset : (ofList es).keys ⊆ es.map Prod.fst := by
    intro k hk
    rw [keys_ofList] at hk
    exact List.mem_eraseDups.mp hk
  have hsubperm : (ofList es).keys.Subperm (es.map Prod.fst) :=
    List.subperm_of_subset (ofList es).nodup hsubset
  by_contra hlength
  have hle : (es.map Prod.fst).length ≤ (ofList es).keys.length := by
    rw [keys, List.length_map, List.length_map]
    exact Nat.le_of_not_lt hlength
  exact h ((hsubperm.perm_of_length_le hle).nodup_iff.mp (ofList es).nodup)

end Columnar.OrderedMap
