import Columnar.Proofs.OrderedMap
import Columnar.Proofs.Result
import Columnar.Table.Frame

namespace Columnar

lemma Column.as_eq_ok_iff {t : DataType} {c : Column} {v : DataVector t.Carrier} :
    c.as t = .ok v ↔ c = ⟨t, v⟩ := by
  rcases c with ⟨s, w⟩
  rw [as, as?]
  by_cases hs : s = t
  · subst hs
    simp
  · simp [hs]

namespace Frame

variable {f g : Frame} {name old new : String} {c : Column} {t : DataType}
  {before after : List (String × Column)}

inductive Step where
  | addColumn (name : String) (c : Column)
  | addSeries (t : DataType) (s : Series t.Carrier)
  | setColumn (name : String) (c : Column)
  | dropColumn (name : String)
  | renameColumn (old new : String)
  | editColumn (t : DataType) (name : String) (edit : DataVector t.Carrier → DataVector t.Carrier)
  | clear

def Step.change : Step → Change Unit
  | .addColumn name c => Frame.addColumn name c
  | .addSeries t s => Frame.addSeries t s
  | .setColumn name c => Frame.setColumn name c
  | .dropColumn name => do
    let _ ← Frame.dropColumn name
    return ()
  | .renameColumn old new => Frame.renameColumn old new
  | .editColumn t name edit => Frame.editColumn t name edit
  | .clear => Frame.clear

def Admits (f : Frame) (c : Column) : Prop := f.columns.entries = [] ∨ c.size = f.rows

lemma eq_of_columns (h : f.columns = g.columns) : f = g := by
  cases f
  cases g
  cases h
  rfl

lemma mem_names_iff : name ∈ f.names ↔ name ∈ f.columns := Iff.rfl

lemma column_eq_ok_iff :
    f.column name = .ok c ↔ ∃ before after, f.columns.entries = before ++ (name, c) :: after := by
  rw [← OrderedMap.find?_eq_some_iff, column, column?]
  cases f.columns.find? name with
  | none => simp
  | some d => simp

lemma column_eq_ok_iff_mem : f.column name = .ok c ↔ (name, c) ∈ f.columns.entries := by
  rw [column_eq_ok_iff]
  exact List.mem_iff_append.symm

lemma vector_eq_ok_iff {v : DataVector t.Carrier} :
    f.vector t name = .ok v ↔
      ∃ before after, f.columns.entries = before ++ (name, ⟨t, v⟩) :: after := by
  simp only [vector, bind_eq_ok, Column.as_eq_ok_iff, exists_eq_right, column_eq_ok_iff]

lemma checkSize_eq_ok_iff {u : Unit} : f.checkSize c = .ok u ↔ f.Admits c := by
  rw [checkSize, Admits, OrderedMap.isEmpty, checkLength]
  by_cases hempty : f.columns.entries = []
  · simp [hempty]
  · simp [hempty]

lemma names_eq_singleton_iff : f.names = [name] ↔ f.columnCount = 1 ∧ name ∈ f.columns := by
  have hlength : f.columnCount = f.names.length := List.length_map _ |>.symm
  rw [hlength, ← mem_names_iff]
  constructor
  · intro h
    simp [h]
  · rintro ⟨hone, hmem⟩
    obtain ⟨only, honly⟩ := List.length_eq_one_iff.mp hone
    rw [honly] at hmem ⊢
    rw [List.mem_singleton.mp hmem]

lemma checkReplacement_eq_ok_iff {u : Unit} :
    f.checkReplacement name c = .ok u ↔ f.names = [name] ∨ f.Admits c := by
  rw [checkReplacement, names_eq_singleton_iff]
  by_cases h : f.columnCount = 1 ∧ name ∈ f.columns
  · simp [h]
  · simp [h, checkSize_eq_ok_iff]

lemma run_addColumn : (addColumn name c).run f =
    if h : name ∈ f.columns then .error (columnExists name) f
    else match f.checkSize c with
      | .ok _ => .ok () ⟨f.columns.push name c h⟩
      | .error e => .error e f := by
  by_cases h : name ∈ f.columns
  · simp [addColumn, h]
  · cases hsize : f.checkSize c with
    | ok u => simp [addColumn, h, run_ofExcept, hsize]
    | error e => simp [addColumn, h, run_ofExcept, hsize]

lemma run_setColumn : (setColumn name c).run f =
    match f.checkReplacement name c with
    | .ok _ => .ok () ⟨f.columns.insert name c⟩
    | .error e => .error e f := by
  cases hsize : f.checkReplacement name c with
  | ok u => simp [setColumn, run_ofExcept, hsize]
  | error e => simp [setColumn, run_ofExcept, hsize]

lemma run_dropColumn : (dropColumn name).run f =
    match f.column name with
    | .ok c => .ok c ⟨f.columns.erase name⟩
    | .error e => .error e f := by
  cases hcolumn : f.column name with
  | ok c => simp [dropColumn, run_ofExcept, hcolumn, -bind_pure_comp]
  | error e => simp [dropColumn, run_ofExcept, hcolumn]

lemma run_editColumn {edit : DataVector t.Carrier → DataVector t.Carrier} :
    (editColumn t name edit).run f =
      match f.vector t name with
      | .ok v => .ok () ⟨f.columns.insert name ⟨t, edit v⟩⟩
      | .error e => .error e f := by
  cases hvector : f.vector t name with
  | ok v => simp [editColumn, run_ofExcept, hvector]
  | error e => simp [editColumn, run_ofExcept, hvector]

lemma run_renameColumn_of_not_mem (h : old ∉ f.columns) :
    (renameColumn old new).run f = .error (.keyNotFound old) f := by
  simp [renameColumn, OrderedMap.indexOf?_eq_none_iff.mpr h]

lemma run_renameColumn_of_mem (h : old ∈ f.columns) (hnew : new ∈ f.columns) :
    (renameColumn old new).run f = .error (columnExists new) f := by
  obtain ⟨before, c, after, hentries⟩ := OrderedMap.mem_iff_exists_entries.mp h
  simp [renameColumn, OrderedMap.indexOf?_of_entries hentries, hnew]

lemma run_renameColumn_of_entries (h : f.columns.entries = before ++ (old, c) :: after)
    (hnew : new ∉ f.columns) :
    ∃ g : Frame, (renameColumn old new).run f = .ok () g ∧
      g.columns.entries = before ++ (new, c) :: after := by
  have hrest := OrderedMap.not_mem_erase hnew old
  refine ⟨⟨(f.columns.erase old).insertAt before.length new c hrest⟩, ?_, ?_⟩
  · simp [renameColumn, OrderedMap.indexOf?_of_entries h, hnew, column?,
      OrderedMap.find?_of_entries h]
  · exact OrderedMap.entries_insertAt_erase h hrest

section Refusals

variable {e : Error}

lemma eq_of_addColumn_error (h : (addColumn name c).run f = .error e g) : g = f := by
  rw [run_addColumn] at h
  split at h
  case isTrue =>
    cases h
    rfl
  case isFalse =>
    split at h
    case h_1 => cases h
    case h_2 =>
      cases h
      rfl

lemma eq_of_setColumn_error (h : (setColumn name c).run f = .error e g) : g = f := by
  rw [run_setColumn] at h
  split at h
  case h_1 => cases h
  case h_2 =>
    cases h
    rfl

lemma eq_of_dropColumn_error (h : (dropColumn name).run f = .error e g) : g = f := by
  rw [run_dropColumn] at h
  split at h
  case h_1 => cases h
  case h_2 =>
    cases h
    rfl

lemma eq_of_renameColumn_error (h : (renameColumn old new).run f = .error e g) : g = f := by
  by_cases hold : old ∈ f.columns
  · by_cases hnew : new ∈ f.columns
    · rw [run_renameColumn_of_mem hold hnew] at h
      cases h
      rfl
    · obtain ⟨before, c, after, hentries⟩ := OrderedMap.mem_iff_exists_entries.mp hold
      obtain ⟨renamed, hrun, -⟩ := run_renameColumn_of_entries hentries hnew
      rw [hrun] at h
      cases h
  · rw [run_renameColumn_of_not_mem hold] at h
    cases h
    rfl

lemma eq_of_editColumn_error {edit : DataVector t.Carrier → DataVector t.Carrier}
    (h : (editColumn t name edit).run f = .error e g) : g = f := by
  rw [run_editColumn] at h
  split at h
  case h_1 => cases h
  case h_2 =>
    cases h
    rfl

lemma Step.eq_of_error {s : Step} (h : s.change.run f = .error e g) : g = f := by
  cases s with
  | addColumn name c => exact eq_of_addColumn_error h
  | addSeries t s => exact eq_of_addColumn_error h
  | setColumn name c => exact eq_of_setColumn_error h
  | dropColumn name =>
    rw [change, EStateM.run_bind] at h
    split at h
    case h_1 => cases h
    case h_2 cause rest hrun =>
      cases h
      exact eq_of_dropColumn_error hrun
  | renameColumn old new => exact eq_of_renameColumn_error h
  | editColumn t name edit => exact eq_of_editColumn_error h
  | clear => cases h

end Refusals

lemma eq_mk_iff {m : OrderedMap Column} : ⟨m⟩ = g ↔ g.columns.entries = m.entries := by
  constructor
  · rintro rfl
    rfl
  · intro h
    exact eq_of_columns (OrderedMap.eq_of_entries h.symm)

lemma addColumn_eq_ok_iff : (addColumn name c).run f = .ok () g ↔
    name ∉ f.names ∧ f.Admits c ∧ g.columns.entries = f.columns.entries ++ [(name, c)] := by
  rw [run_addColumn, mem_names_iff, ← checkSize_eq_ok_iff (u := ())]
  by_cases h : name ∈ f.columns
  · simp [h]
  · rw [dif_neg h]
    cases hsize : f.checkSize c with
    | ok u => simp [h, eq_mk_iff, OrderedMap.push]
    | error e => simp

lemma setColumn_eq_ok_iff : (setColumn name c).run f = .ok () g ↔
    (f.names = [name] ∨ f.Admits c) ∧
      (name ∉ f.names ∧ g.columns.entries = f.columns.entries ++ [(name, c)] ∨
        ∃ before d after, f.columns.entries = before ++ (name, d) :: after ∧
          g.columns.entries = before ++ (name, c) :: after) := by
  rw [run_setColumn, ← checkReplacement_eq_ok_iff (u := ())]
  cases hsize : f.checkReplacement name c with
  | error e => simp
  | ok u =>
    simp only [EStateM.Result.ok.injEq, true_and, eq_mk_iff, mem_names_iff,
      OrderedMap.eq_entries_insert_iff]

lemma dropColumn_eq_ok_iff : (dropColumn name).run f = .ok c g ↔
    ∃ before after, f.columns.entries = before ++ (name, c) :: after ∧
      g.columns.entries = before ++ after := by
  constructor
  · intro h
    rw [run_dropColumn] at h
    split at h
    case h_2 => cases h
    case h_1 d hcolumn =>
      cases h
      obtain ⟨before, after, hentries⟩ := column_eq_ok_iff.mp hcolumn
      exact ⟨before, after, hentries, OrderedMap.entries_erase_of_entries hentries⟩
  · rintro ⟨before, after, hentries, hrest⟩
    rw [run_dropColumn, column_eq_ok_iff.mpr ⟨before, after, hentries⟩]
    simp only [EStateM.Result.ok.injEq, true_and, eq_mk_iff, hrest,
      OrderedMap.entries_erase_of_entries hentries]

lemma renameColumn_eq_ok_iff : (renameColumn old new).run f = .ok () g ↔
    new ∉ f.names ∧ ∃ before c after, f.columns.entries = before ++ (old, c) :: after ∧
      g.columns.entries = before ++ (new, c) :: after := by
  rw [mem_names_iff]
  constructor
  · intro h
    by_cases hold : old ∈ f.columns
    · by_cases hnew : new ∈ f.columns
      · rw [run_renameColumn_of_mem hold hnew] at h
        cases h
      · obtain ⟨before, c, after, hentries⟩ := OrderedMap.mem_iff_exists_entries.mp hold
        obtain ⟨renamed, hrun, hrenamed⟩ := run_renameColumn_of_entries hentries hnew
        rw [hrun] at h
        cases h
        exact ⟨hnew, before, c, after, hentries, hrenamed⟩
    · rw [run_renameColumn_of_not_mem hold] at h
      cases h
  · rintro ⟨hnew, before, c, after, hentries, hg⟩
    obtain ⟨renamed, hrun, hrenamed⟩ := run_renameColumn_of_entries hentries hnew
    rw [hrun, eq_of_columns (OrderedMap.eq_of_entries (hrenamed.trans hg.symm))]

lemma renameColumn_back (h : (renameColumn old new).run f = .ok () g) :
    (renameColumn new old).run g = .ok () f := by
  obtain ⟨hnew, before, c, after, hf, hg⟩ := renameColumn_eq_ok_iff.mp h
  refine renameColumn_eq_ok_iff.mpr ⟨?_, before, c, after, hg, hf⟩
  intro hold
  have hne : old ≠ new := by
    rintro rfl
    exact hnew (OrderedMap.mem_iff_exists_entries.mpr ⟨before, c, after, hf⟩)
  obtain ⟨⟨name, d⟩, hmem, rfl⟩ := List.mem_map.mp hold
  rw [hg, List.mem_append, List.mem_cons] at hmem
  rcases hmem with hbefore | heq | hafter
  · exact OrderedMap.ne_of_mem_before hf hbefore rfl
  · exact hne (congrArg Prod.fst heq)
  · exact OrderedMap.ne_of_mem_after hf hafter rfl

lemma editColumn_eq_ok_iff {edit : DataVector t.Carrier → DataVector t.Carrier} :
    (editColumn t name edit).run f = .ok () g ↔
      ∃ before v after, f.columns.entries = before ++ (name, ⟨t, v⟩) :: after ∧
        g.columns.entries = before ++ (name, ⟨t, edit v⟩) :: after := by
  constructor
  · intro h
    rw [run_editColumn] at h
    split at h
    case h_2 => cases h
    case h_1 v hvector =>
      cases h
      obtain ⟨before, after, hentries⟩ := vector_eq_ok_iff.mp hvector
      exact ⟨before, v, after, hentries, OrderedMap.entries_insert_of_entries hentries⟩
  · rintro ⟨before, v, after, hentries, hg⟩
    rw [run_editColumn, vector_eq_ok_iff.mpr ⟨before, after, hentries⟩]
    simp only [EStateM.Result.ok.injEq, true_and, eq_mk_iff, hg,
      OrderedMap.entries_insert_of_entries hentries]

theorem change_atomic_local (f : Frame) :
    (∀ (s : Step) e g, s.change.run f = .error e g → g = f) ∧
    (∀ (s : Step) g, s.change.run f = .ok () g → g.names.Nodup) ∧
    (∀ name c g, (addColumn name c).run f = .ok () g ↔
      name ∉ f.names ∧ f.Admits c ∧ g.columns.entries = f.columns.entries ++ [(name, c)]) ∧
    (∀ t (s : Series t.Carrier) g, (addSeries t s).run f = .ok () g ↔
      s.name ∉ f.names ∧ f.Admits ⟨t, s.vector⟩ ∧
        g.columns.entries = f.columns.entries ++ [(s.name, ⟨t, s.vector⟩)]) ∧
    (∀ name c g, (setColumn name c).run f = .ok () g ↔
      (f.names = [name] ∨ f.Admits c) ∧
        (name ∉ f.names ∧ g.columns.entries = f.columns.entries ++ [(name, c)] ∨
          ∃ before d after, f.columns.entries = before ++ (name, d) :: after ∧
            g.columns.entries = before ++ (name, c) :: after)) ∧
    (∀ name c g, (dropColumn name).run f = .ok c g ↔
      ∃ before after, f.columns.entries = before ++ (name, c) :: after ∧
        g.columns.entries = before ++ after) ∧
    (∀ old new g, (renameColumn old new).run f = .ok () g ↔
      new ∉ f.names ∧ ∃ before c after, f.columns.entries = before ++ (old, c) :: after ∧
        g.columns.entries = before ++ (new, c) :: after) ∧
    (∀ old new g, (renameColumn old new).run f = .ok () g →
      (renameColumn new old).run g = .ok () f) ∧
    ∀ t name (edit : DataVector t.Carrier → DataVector t.Carrier) g,
      (editColumn t name edit).run f = .ok () g ↔
        ∃ before v after, f.columns.entries = before ++ (name, ⟨t, v⟩) :: after ∧
          g.columns.entries = before ++ (name, ⟨t, edit v⟩) :: after := by
  refine ⟨?_, ?_, ?_, ?_, ?_, ?_, ?_, ?_, ?_⟩
  · intro s e g h
    exact Step.eq_of_error h
  · intro s g h
    exact g.columns.nodup
  · intro name c g
    exact addColumn_eq_ok_iff
  · intro t s g
    exact addColumn_eq_ok_iff
  · intro name c g
    exact setColumn_eq_ok_iff
  · intro name c g
    exact dropColumn_eq_ok_iff
  · intro old new g
    exact renameColumn_eq_ok_iff
  · intro old new g h
    exact renameColumn_back h
  · intro t name edit g
    exact editColumn_eq_ok_iff

end Frame

end Columnar
