import Columnar.Proofs.Table.Changes

/-! All columns of a frame are equally long, however the frame was made, unless a column was edited
in its place: an edit that makes one of several columns longer or shorter leaves them unequal. -/

namespace Columnar.Frame

variable {f g : Frame} {s : Step} {n : Nat} {es : List (String × Column)}

def Rectangular (f : Frame) : Prop := ∀ c ∈ f.columns.values, c.size = f.rows

def KeepsRows (f : Frame) : Step → Prop
  | .editColumn t name edit =>
    f.names = [name] ∨ ∀ v, f.vector t name = .ok v → (edit v).size = v.size
  | _ => True

/-- The frames that can be made by steps of the `allowed` kind. -/
inductive Reachable (allowed : Frame → Step → Prop) : Frame → Prop
  | empty : Reachable allowed ∅
  | ofColumns {columns : List (String × Column)} {f : Frame} (h : ofColumns columns = .ok f) :
    Reachable allowed f
  | decoded {source : Json.Source} {v : Json} {f : Frame} (h : decode source v = .ok f) :
    Reachable allowed f
  | changed {f g : Frame} {s : Step} (hf : Reachable allowed f) (hs : allowed f s)
    (h : s.change.run f = .ok () g) : Reachable allowed g
  | refused {f g : Frame} {s : Step} {e : Error} (hf : Reachable allowed f) (hs : allowed f s)
    (h : s.change.run f = .error e g) : Reachable allowed g
  | selected {f g : Frame} {names : List String} (hf : Reachable allowed f)
    (h : f.select names = .ok g) : Reachable allowed g
  | joined {f g j : Frame} (hf : Reachable allowed f) (hg : Reachable allowed g)
    (h : f.concat g = .ok j) : Reachable allowed j

def Sized (n : Nat) (es : List (String × Column)) : Prop := ∀ e ∈ es, e.2.size = n

lemma rows_of_sized (h : Sized n f.columns.entries) (hne : f.columns.entries ≠ []) :
    f.rows = n := by
  rw [rows, OrderedMap.values]
  cases hes : f.columns.entries with
  | nil => exact absurd hes hne
  | cons e es =>
    rw [hes] at h
    exact h e List.mem_cons_self

lemma rectangular_iff : f.Rectangular ↔ ∃ n, Sized n f.columns.entries := by
  constructor
  · intro h
    exact ⟨f.rows, fun e he => h e.2 (List.mem_map_of_mem he)⟩
  · rintro ⟨n, h⟩ c hc
    obtain ⟨e, he, rfl⟩ := List.mem_map.mp hc
    rw [h e he, rows_of_sized h (List.ne_nil_of_mem he)]

lemma sized_append {fs : List (String × Column)} : Sized n (es ++ fs) ↔ Sized n es ∧ Sized n fs :=
  List.forall_mem_append

lemma sized_cons {name : String} {c : Column} :
    Sized n ((name, c) :: es) ↔ c.size = n ∧ Sized n es :=
  List.forall_mem_cons

lemma sized_singleton {name : String} {c : Column} : Sized n [(name, c)] ↔ c.size = n :=
  List.forall_mem_singleton

lemma rectangular_empty : (∅ : Frame).Rectangular := rectangular_iff.mpr ⟨0, List.forall_mem_nil _⟩

lemma exists_sized_of_admits {c : Column} (hf : f.Rectangular) (h : f.Admits c) :
    Sized c.size f.columns.entries := by
  obtain ⟨n, hn⟩ := rectangular_iff.mp hf
  by_cases hempty : f.columns.entries = []
  · rw [hempty]
    exact List.forall_mem_nil _
  · rcases h with hnil | hsize
    · exact absurd hnil hempty
    · rwa [hsize, rows_of_sized hn hempty]

lemma rectangular_addColumn {name : String} {c : Column} (hf : f.Rectangular)
    (h : (addColumn name c).run f = .ok () g) : g.Rectangular := by
  obtain ⟨-, hadmits, hg⟩ := addColumn_eq_ok_iff.mp h
  apply rectangular_iff.mpr
  refine ⟨c.size, ?_⟩
  rw [hg, sized_append, sized_singleton]
  exact ⟨exists_sized_of_admits hf hadmits, rfl⟩

lemma entries_of_names_eq {name : String} {c : Column} {before after : List (String × Column)}
    (hnames : f.names = [name]) (h : f.columns.entries = before ++ (name, c) :: after) :
    before = [] ∧ after = [] := by
  have hlength := congrArg List.length hnames
  rw [names, OrderedMap.keys, h] at hlength
  simp only [List.length_map, List.length_append, List.length_cons, List.length_nil] at hlength
  constructor
  · exact List.length_eq_zero_iff.mp (by omega)
  · exact List.length_eq_zero_iff.mp (by omega)

lemma rectangular_setColumn {name : String} {c : Column} (hf : f.Rectangular)
    (h : (setColumn name c).run f = .ok () g) : g.Rectangular := by
  obtain ⟨hsize, hg⟩ := setColumn_eq_ok_iff.mp h
  apply rectangular_iff.mpr
  refine ⟨c.size, ?_⟩
  rcases hg with ⟨hnew, hg⟩ | ⟨before, d, after, hentries, hg⟩
  · rcases hsize with honly | hadmits
    · rw [honly] at hnew
      exact absurd (List.mem_singleton_self name) hnew
    · rw [hg, sized_append, sized_singleton]
      exact ⟨exists_sized_of_admits hf hadmits, rfl⟩
  · rw [hg, sized_append, sized_cons]
    rcases hsize with honly | hadmits
    · obtain ⟨rfl, rfl⟩ := entries_of_names_eq honly hentries
      exact ⟨List.forall_mem_nil _, rfl, List.forall_mem_nil _⟩
    · have hsized := exists_sized_of_admits hf hadmits
      rw [hentries, sized_append, sized_cons] at hsized
      exact ⟨hsized.1, rfl, hsized.2.2⟩

lemma rectangular_dropColumn {name : String} {c : Column} (hf : f.Rectangular)
    (h : (dropColumn name).run f = .ok c g) : g.Rectangular := by
  obtain ⟨before, after, hentries, hg⟩ := dropColumn_eq_ok_iff.mp h
  obtain ⟨n, hn⟩ := rectangular_iff.mp hf
  rw [hentries, sized_append, sized_cons] at hn
  apply rectangular_iff.mpr
  refine ⟨n, ?_⟩
  rw [hg, sized_append]
  exact ⟨hn.1, hn.2.2⟩

lemma rectangular_renameColumn {old new : String} (hf : f.Rectangular)
    (h : (renameColumn old new).run f = .ok () g) : g.Rectangular := by
  obtain ⟨-, before, c, after, hentries, hg⟩ := renameColumn_eq_ok_iff.mp h
  obtain ⟨n, hn⟩ := rectangular_iff.mp hf
  rw [hentries, sized_append, sized_cons] at hn
  apply rectangular_iff.mpr
  refine ⟨n, ?_⟩
  rwa [hg, sized_append, sized_cons]

section Edit

variable {t : DataType} {name : String} {edit : DataVector t.Carrier → DataVector t.Carrier}

lemma rectangular_editColumn_iff (hf : f.Rectangular)
    (h : (editColumn t name edit).run f = .ok () g) :
    g.Rectangular ↔ f.KeepsRows (.editColumn t name edit) := by
  obtain ⟨before, v, after, hentries, hg⟩ := editColumn_eq_ok_iff.mp h
  obtain ⟨n, hn⟩ := rectangular_iff.mp hf
  rw [hentries, sized_append, sized_cons] at hn
  have hvector := vector_eq_ok_iff.mpr ⟨before, after, hentries⟩
  have hv : v.size = n := hn.2.1
  rw [rectangular_iff, hg, KeepsRows]
  simp only [hvector, Except.ok.injEq, forall_eq', sized_append, sized_cons]
  constructor
  · rintro ⟨m, hbefore, hm, hafter⟩
    -- a column beside the edited one has kept the old number of rows
    by_cases hbeside : before ++ after = []
    · obtain ⟨rfl, rfl⟩ := List.append_eq_nil_iff.mp hbeside
      refine .inl ?_
      rw [names, OrderedMap.keys, hentries]
      rfl
    · obtain ⟨e, he⟩ := List.exists_mem_of_ne_nil _ hbeside
      have hnow : e.2.size = m := sized_append.mpr ⟨hbefore, hafter⟩ e he
      have hthen : e.2.size = n := sized_append.mpr ⟨hn.1, hn.2.2⟩ e he
      exact .inr (hm.trans (hnow.symm.trans (hthen.trans hv.symm)))
  · rintro (honly | hsize)
    · obtain ⟨rfl, rfl⟩ := entries_of_names_eq honly hentries
      exact ⟨_, List.forall_mem_nil _, rfl, List.forall_mem_nil _⟩
    · exact ⟨n, hn.1, hsize.trans hv, hn.2.2⟩

end Edit

lemma Step.rectangular_iff_of_run (hf : f.Rectangular) (h : s.change.run f = .ok () g) :
    g.Rectangular ↔ f.KeepsRows s := by
  cases s with
  | addColumn name c => exact iff_of_true (rectangular_addColumn hf h) trivial
  | addSeries t series => exact iff_of_true (rectangular_addColumn hf h) trivial
  | setColumn name c => exact iff_of_true (rectangular_setColumn hf h) trivial
  | dropColumn name =>
    rw [change, EStateM.run_bind] at h
    split at h
    case h_1 c rest hrun =>
      cases h
      exact iff_of_true (rectangular_dropColumn hf hrun) trivial
    case h_2 => cases h
  | renameColumn old new => exact iff_of_true (rectangular_renameColumn hf h) trivial
  | editColumn t name edit => exact rectangular_editColumn_iff hf h
  | clear =>
    cases h
    exact iff_of_true rectangular_empty trivial

lemma addColumns_cons (e : String × Column) (es : List (String × Column)) :
    addColumns (e :: es) = (addColumn e.1 e.2 >>= fun _ => addColumns es) := rfl

lemma rectangular_addColumns {columns : List (String × Column)} (hf : f.Rectangular)
    (h : (addColumns columns).run f = .ok () g) : g.Rectangular := by
  induction columns generalizing f with
  | nil =>
    cases h
    exact hf
  | cons column columns ih =>
    rw [addColumns_cons, EStateM.run_bind] at h
    split at h
    case h_1 u next hrun => exact ih (rectangular_addColumn hf hrun) h
    case h_2 => cases h

lemma outcome_eq_ok_iff {change : Change Unit} :
    change.outcome f = .ok g ↔ change.run f = .ok () g := by
  rw [Change.outcome]
  cases change.run f with
  | ok u g => simp
  | error e g => simp

lemma rectangular_ofColumns {columns : List (String × Column)} (h : ofColumns columns = .ok f) :
    f.Rectangular :=
  rectangular_addColumns rectangular_empty (outcome_eq_ok_iff.mp h)

lemma rectangular_concat {j : Frame} (hf : f.Rectangular) (h : f.concat g = .ok j) :
    j.Rectangular :=
  rectangular_addColumns hf (outcome_eq_ok_iff.mp h)

lemma chosen_columns {names : List String}
    (h : names.mapM (fun name => do return (name, ← f.column name)) = .ok es) :
    es.map Prod.fst = names ∧ es ⊆ f.columns.entries := by
  induction mapM_eq_ok_iff.mp h with
  | nil => exact ⟨rfl, List.nil_subset _⟩
  | cons hname _ ih =>
    obtain ⟨c, hc, he⟩ := bind_eq_ok.mp hname
    cases he
    obtain ⟨hnames, hsubset⟩ := ih (mapM_eq_ok_iff.mpr ‹_›)
    rw [List.map_cons, hnames]
    exact ⟨rfl, List.cons_subset.mpr ⟨column_eq_ok_iff_mem.mp hc, hsubset⟩⟩

lemma of_select {names : List String} (h : f.select names = .ok g) :
    g.names = names.eraseDups ∧ g.columns.entries ⊆ f.columns.entries := by
  obtain ⟨es, hes, hg⟩ := bind_eq_ok.mp h
  cases hg
  obtain ⟨hnames, hsubset⟩ := chosen_columns hes
  constructor
  · rw [Frame.names, OrderedMap.keys_ofList, hnames]
  · exact List.Subset.trans (OrderedMap.entries_ofList_subset es) hsubset

lemma rectangular_select {names : List String} (hf : f.Rectangular) (h : f.select names = .ok g) :
    g.Rectangular := by
  obtain ⟨n, hn⟩ := rectangular_iff.mp hf
  exact rectangular_iff.mpr ⟨n, fun e he => hn e ((of_select h).2 he)⟩

lemma rectangular_decode {source : Json.Source} {v : Json} (h : decode source v = .ok f) :
    f.Rectangular := by
  cases v with
  | object members closed =>
    obtain ⟨columns, -, h⟩ := bind_eq_ok.mp h
    cases closed with
    | true => exact rectangular_ofColumns (Json.accept_eq_ok_iff.mp h)
    | false => cases h
  | _ => cases h

lemma Reachable.rectangular (h : Reachable KeepsRows f) : f.Rectangular := by
  induction h with
  | empty => exact rectangular_empty
  | ofColumns h => exact rectangular_ofColumns h
  | decoded h => exact rectangular_decode h
  | changed hf hs h ih => exact (Step.rectangular_iff_of_run ih h).mpr hs
  | refused hf hs h ih => exact Step.eq_of_error h ▸ ih
  | selected hf h ih => exact rectangular_select ih h
  | joined hf hg h ihf ihg => exact rectangular_concat ihf h

/-- A frame is rectangular as long as no column among others is edited to another length, and such
an edit of a rectangular frame always leaves one that is not. -/
theorem rectangular_iff_keepsRows (f : Frame) :
    (Reachable KeepsRows f → f.Rectangular) ∧
    ∀ (s : Step) g, f.Rectangular → s.change.run f = .ok () g →
      (g.Rectangular ↔ f.KeepsRows s) := by
  constructor
  · intro h
    exact h.rectangular
  · intro s g hf h
    exact Step.rectangular_iff_of_run hf h

theorem push_unequal : ¬ ∀ f, Reachable (fun _ _ => True) f → f.Rectangular := by
  intro h
  have hmade : ofColumns [("a", ⟨.truth, .ofList [true]⟩), ("b", ⟨.truth, .ofList [true]⟩)] =
      .ok ⟨⟨[("a", ⟨.truth, .ofList [true]⟩), ("b", ⟨.truth, .ofList [true]⟩)], by decide⟩⟩ := rfl
  have hedited :=
    h _ (.changed (s := .editColumn .truth "b" (·.push true)) (.ofColumns hmade) trivial rfl)
  exact absurd (hedited ⟨.truth, .ofList [true, true]⟩ (.tail _ (.head _))) (by decide)

end Columnar.Frame
