import Columnar.Proofs.Table.Decoding
import Mathlib.Data.List.Nodup

namespace Columnar.Frame

variable {f g h j s : Frame} {names part : List String} {es fs : List (String × Column)}

lemma exists_rectangular_iff :
    (∃ f : Frame, f.Rectangular ∧ f.columns.entries = es) ↔
      (es.map Prod.fst).Nodup ∧ ∃ n, Sized n es := by
  constructor
  · rintro ⟨f, hf, rfl⟩
    exact ⟨f.columns.nodup, rectangular_iff.mp hf⟩
  · rintro ⟨hnodup, hsized⟩
    exact ⟨⟨⟨es, hnodup⟩⟩, rectangular_iff.mpr hsized, rfl⟩

lemma exists_rectangular_of_sublist (hf : f.Rectangular) (h : es.Sublist f.columns.entries) :
    ∃ g : Frame, g.Rectangular ∧ g.columns.entries = es := by
  obtain ⟨hnodup, n, hn⟩ := exists_rectangular_iff.mp ⟨f, hf, rfl⟩
  exact exists_rectangular_iff.mpr ⟨hnodup.sublist (h.map _), n, fun e he => hn e (h.subset he)⟩

lemma names_eq_nil_iff : f.names = [] ↔ f.columns.entries = [] := List.map_eq_nil_iff

lemma sized_rows (hf : f.Rectangular) : Sized f.rows f.columns.entries :=
  fun _ he => hf _ (List.mem_map_of_mem he)

lemma exists_sized_append_iff (hf : f.Rectangular) (hg : g.Rectangular) :
    (∃ n, Sized n (f.columns.entries ++ g.columns.entries)) ↔
      (f.names ≠ [] → g.names ≠ [] → f.rows = g.rows) := by
  simp only [sized_append, ne_eq, names_eq_nil_iff]
  constructor
  · rintro ⟨n, hfn, hgn⟩ hf' hg'
    rw [rows_of_sized hfn hf', rows_of_sized hgn hg']
  · intro hrows
    by_cases hf' : f.columns.entries = []
    · rw [hf']
      exact ⟨g.rows, List.forall_mem_nil _, sized_rows hg⟩
    by_cases hg' : g.columns.entries = []
    · rw [hg']
      exact ⟨f.rows, sized_rows hf, List.forall_mem_nil _⟩
    · exact ⟨f.rows, sized_rows hf, hrows hf' hg' ▸ sized_rows hg⟩

lemma concat_eq_ok_iff (hf : f.Rectangular) :
    f.concat g = .ok j ↔
      j.Rectangular ∧ j.columns.entries = f.columns.entries ++ g.columns.entries := by
  constructor
  · intro h
    exact ⟨rectangular_concat hf h, entries_of_run_addColumns (outcome_eq_ok_iff.mp h)⟩
  · rintro ⟨hj, hentries⟩
    exact outcome_eq_ok_iff.mpr (run_addColumns hj hentries)

lemma exists_concat_iff (hf : f.Rectangular) (hg : g.Rectangular) :
    (∃ j, f.concat g = .ok j) ↔
      f.names.Disjoint g.names ∧ (f.names ≠ [] → g.names ≠ [] → f.rows = g.rows) := by
  have hnames : ((f.columns.entries ++ g.columns.entries).map Prod.fst).Nodup ↔
      f.names.Disjoint g.names := by
    rw [List.map_append, List.nodup_append']
    simp only [f.columns.nodup, g.columns.nodup, true_and]
    rfl
  simp only [concat_eq_ok_iff hf, exists_rectangular_iff, hnames, exists_sized_append_iff hf hg]

lemma concat_concat_left_iff (hf : f.Rectangular) :
    (f.concat g >>= fun fg => fg.concat h) = .ok j ↔
      j.Rectangular ∧
      j.columns.entries = f.columns.entries ++ (g.columns.entries ++ h.columns.entries) := by
  rw [bind_eq_ok, ← List.append_assoc]
  constructor
  · rintro ⟨fg, hfg, hj⟩
    obtain ⟨hrectangular, hentries⟩ := (concat_eq_ok_iff hf).mp hfg
    rw [← hentries]
    exact (concat_eq_ok_iff hrectangular).mp hj
  · rintro ⟨hj, hentries⟩
    have hprefix : (f.columns.entries ++ g.columns.entries).Sublist j.columns.entries :=
      hentries ▸ List.sublist_append_left _ _
    obtain ⟨fg, hfg, hfgEntries⟩ := exists_rectangular_of_sublist hj hprefix
    refine ⟨fg, (concat_eq_ok_iff hf).mpr ⟨hfg, hfgEntries⟩, (concat_eq_ok_iff hfg).mpr ⟨hj, ?_⟩⟩
    rw [hfgEntries, hentries]

lemma concat_concat_right_iff (hf : f.Rectangular) (hg : g.Rectangular) :
    (g.concat h >>= fun gh => f.concat gh) = .ok j ↔
      j.Rectangular ∧
      j.columns.entries = f.columns.entries ++ (g.columns.entries ++ h.columns.entries) := by
  rw [bind_eq_ok]
  constructor
  · rintro ⟨gh, hgh, hj⟩
    obtain ⟨-, hentries⟩ := (concat_eq_ok_iff hg).mp hgh
    rw [← hentries]
    exact (concat_eq_ok_iff hf).mp hj
  · rintro ⟨hj, hentries⟩
    have hsuffix : (g.columns.entries ++ h.columns.entries).Sublist j.columns.entries :=
      hentries ▸ List.sublist_append_right _ _
    obtain ⟨gh, hgh, hghEntries⟩ := exists_rectangular_of_sublist hj hsuffix
    refine ⟨gh, (concat_eq_ok_iff hg).mpr ⟨hgh, hghEntries⟩, (concat_eq_ok_iff hf).mpr ⟨hj, ?_⟩⟩
    rw [hghEntries, hentries]

lemma empty_concat (hf : f.Rectangular) : (∅ : Frame).concat f = .ok f :=
  (concat_eq_ok_iff rectangular_empty).mpr ⟨hf, rfl⟩

lemma concat_empty (f : Frame) : f.concat ∅ = .ok f := rfl

lemma mem_names_iff_exists {name : String} : name ∈ f.names ↔ ∃ c, (name, c) ∈ f.columns.entries :=
  OrderedMap.mem_keys_iff

lemma exists_select_iff : (∃ s, f.select names = .ok s) ↔ names ⊆ f.names := by
  have hcolumns : (∃ s, f.select names = .ok s) ↔
      ∃ es, names.mapM (fun name => do return (name, ← f.column name)) = .ok es := by
    constructor
    · rintro ⟨s, hs⟩
      obtain ⟨es, hes, -⟩ := bind_eq_ok.mp hs
      exact ⟨es, hes⟩
    · rintro ⟨es, hes⟩
      exact ⟨_, bind_eq_ok.mpr ⟨es, hes, rfl⟩⟩
  rw [hcolumns, exists_mapM_iff]
  refine forall₂_congr fun name _ => ?_
  simp only [mem_names_iff_exists, ← column_eq_ok_iff_mem, bind_eq_ok]
  constructor
  · rintro ⟨e, c, hc, -⟩
    exact ⟨c, hc⟩
  · rintro ⟨c, hc⟩
    exact ⟨_, c, hc, rfl⟩

lemma select_eq_ok_iff :
    f.select names = .ok s ↔ s.names = names.eraseDups ∧ s.columns.entries ⊆ f.columns.entries := by
  refine ⟨of_select, ?_⟩
  rintro ⟨hnames, hsubset⟩
  have hfound : names ⊆ f.names := by
    intro name hname
    rw [← List.mem_eraseDups, ← hnames, mem_names_iff_exists] at hname
    obtain ⟨c, hc⟩ := hname
    exact mem_names_iff_exists.mpr ⟨c, hsubset hc⟩
  obtain ⟨s', hs'⟩ := exists_select_iff.mpr hfound
  obtain ⟨hnames', hsubset'⟩ := of_select hs'
  have hentries : s'.columns.entries = s.columns.entries :=
    OrderedMap.eq_of_map_fst_eq hsubset' hsubset (hnames'.trans hnames.symm)
  rw [hs', eq_of_columns (OrderedMap.eq_of_entries hentries)]

lemma column?_of_select (hs : f.select names = .ok s) {name : String} (hname : name ∈ names) :
    s.column? name = f.column? name := by
  obtain ⟨hnames, hsubset⟩ := of_select hs
  rw [← List.mem_eraseDups, ← hnames, mem_names_iff_exists] at hname
  obtain ⟨c, hc⟩ := hname
  rw [column?, column?, OrderedMap.mem_entries_iff.mp hc,
    OrderedMap.mem_entries_iff.mp (hsubset hc)]

lemma select_select (hs : f.select names = .ok s) (hpart : part ⊆ names) :
    s.select part = f.select part := by
  obtain ⟨hnames, hsubset⟩ := of_select hs
  have hfound : part ⊆ f.names := List.Subset.trans hpart (exists_select_iff.mp ⟨s, hs⟩)
  obtain ⟨p, hp⟩ := exists_select_iff.mpr hfound
  obtain ⟨hpnames, hpsubset⟩ := of_select hp
  rw [hp, select_eq_ok_iff]
  refine ⟨hpnames, ?_⟩
  rintro ⟨name, c⟩ hc
  have hname : name ∈ s.names := by
    have hmem : name ∈ p.names := mem_names_iff_exists.mpr ⟨c, hc⟩
    rw [hpnames, List.mem_eraseDups] at hmem
    rw [hnames, List.mem_eraseDups]
    exact hpart hmem
  obtain ⟨d, hd⟩ := mem_names_iff_exists.mp hname
  rwa [OrderedMap.eq_of_mem_entries (hpsubset hc) (hsubset hd)]

lemma select_names (h : f.columns.entries ⊆ j.columns.entries) : j.select f.names = .ok f :=
  select_eq_ok_iff.mpr ⟨f.columns.eraseDups_keys.symm, h⟩

theorem concat_select_laws (hf : f.Rectangular) (hg : g.Rectangular) :
    ((∃ j, f.concat g = .ok j) ↔
      f.names.Disjoint g.names ∧ (f.names ≠ [] → g.names ≠ [] → f.rows = g.rows)) ∧
    (∀ j, f.concat g = .ok j →
      j.columns.entries = f.columns.entries ++ g.columns.entries ∧
        j.select f.names = .ok f ∧ j.select g.names = .ok g) ∧
    (∀ (h : Frame) (j : Frame), (f.concat g >>= fun fg => fg.concat h) = .ok j ↔
      (g.concat h >>= fun gh => f.concat gh) = .ok j) ∧
    ((∅ : Frame).concat f = .ok f ∧ f.concat ∅ = .ok f) ∧
    (∀ names, (∃ s, f.select names = .ok s) ↔ ∀ name ∈ names, name ∈ f.names) ∧
    (∀ names s, f.select names = .ok s →
      s.names = names.eraseDups ∧ (∀ name ∈ names, s.column? name = f.column? name) ∧
        ∀ part, (∀ name ∈ part, name ∈ names) → s.select part = f.select part) := by
  refine ⟨exists_concat_iff hf hg, ?_, ?_, ⟨empty_concat hf, concat_empty f⟩,
    fun _ => exists_select_iff, ?_⟩
  · intro j hj
    obtain ⟨-, hentries⟩ := (concat_eq_ok_iff hf).mp hj
    refine ⟨hentries, select_names ?_, select_names ?_⟩
    · exact hentries ▸ List.subset_append_left _ _
    · exact hentries ▸ List.subset_append_right _ _
  · intro h j
    rw [concat_concat_left_iff hf, concat_concat_right_iff hf hg]
  · intro names s hs
    exact ⟨(of_select hs).1, fun _ => column?_of_select hs, fun _ => select_select hs⟩

theorem concat_select_laws_beside :
    ∃ f g h tall j k s : Frame,
      (f.Rectangular ∧ g.Rectangular ∧ tall.Rectangular) ∧
      (f.names = ["a"] ∧ g.names = ["b", "c"]) ∧
      (f.concat g = .ok j ∧ j.names = ["a", "b", "c"]) ∧
      (j.select f.names = .ok f ∧ j.select g.names = .ok g) ∧
      (f.select ["a", "a"] = .ok s ∧ s.names = ["a"]) ∧
      (tall.names = ["d"] ∧ tall.rows ≠ f.rows ∧ ¬∃ j, f.concat tall = .ok j) ∧
      (¬∃ j, f.concat f = .ok j) ∧
      h.names = ["d"] ∧ (g.concat h >>= fun gh => f.concat gh) = .ok k ∧
      k.names = ["a", "b", "c", "d"] := by
  have hf : ofColumns [("a", ⟨.truth, .ofList [true]⟩)] =
      .ok ⟨⟨[("a", ⟨.truth, .ofList [true]⟩)], by decide⟩⟩ := rfl
  have hg : ofColumns [("b", ⟨.truth, .ofList [false]⟩), ("c", ⟨.truth, .ofList [true]⟩)] =
      .ok ⟨⟨[("b", ⟨.truth, .ofList [false]⟩), ("c", ⟨.truth, .ofList [true]⟩)], by decide⟩⟩ := rfl
  have htall : ofColumns [("d", ⟨.truth, .ofList [true, false]⟩)] =
      .ok ⟨⟨[("d", ⟨.truth, .ofList [true, false]⟩)], by decide⟩⟩ := rfl
  have hf' := rectangular_ofColumns hf
  have hg' := rectangular_ofColumns hg
  have htall' := rectangular_ofColumns htall
  obtain ⟨hjoinable, hjoin, hassoc, -, hfound, hchoice⟩ := concat_select_laws hf' hg'
  obtain ⟨hjoinableTall, -⟩ := concat_select_laws hf' htall'
  obtain ⟨hjoinableSelf, -⟩ := concat_select_laws hf' hf'
  obtain ⟨j, hj⟩ := hjoinable.mpr ⟨List.disjoint_left.mpr (by decide), fun _ _ => rfl⟩
  obtain ⟨s, hs⟩ := (hfound ["a", "a"]).mpr (by decide)
  obtain ⟨hentries, hleft, hright⟩ := hjoin j hj
  have hnames : j.names = ["a", "b", "c"] := by
    rw [names, OrderedMap.keys, hentries]
    rfl
  have hjoined := (hassoc ⟨⟨[("d", ⟨.truth, .ofList [false]⟩)], by decide⟩⟩
    ⟨⟨[("a", ⟨.truth, .ofList [true]⟩), ("b", ⟨.truth, .ofList [false]⟩),
      ("c", ⟨.truth, .ofList [true]⟩), ("d", ⟨.truth, .ofList [false]⟩)], by decide⟩⟩).mp rfl
  refine ⟨_, _, _, _, j, _, s, ⟨hf', hg', htall'⟩, ⟨rfl, rfl⟩, ⟨hj, hnames⟩, ⟨hleft, hright⟩,
    ⟨hs, (hchoice _ s hs).1⟩, ⟨rfl, by decide, fun h => ?_⟩, fun h => ?_, rfl, hjoined, rfl⟩
  · obtain ⟨-, hrows⟩ := hjoinableTall.mp h
    exact absurd (hrows (by decide) (by decide)) (by decide)
  · obtain ⟨hdisjoint, -⟩ := hjoinableSelf.mp h
    exact hdisjoint (List.mem_singleton_self "a") (List.mem_singleton_self "a")

end Columnar.Frame
