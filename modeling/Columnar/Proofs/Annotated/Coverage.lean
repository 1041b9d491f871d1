import Columnar.Annotated.DataVector
import Columnar.Proofs.Annotated.OneToOne
import Columnar.Proofs.Scalar.NotANumber

/-! Categories and labels that come from the data find every value again that equals itself. -/

namespace Columnar

namespace ElementType

def isAbsent : (t : ElementType) → t.Carrier → Bool
  | number _, a => Number.isNaN a
  | marked _ _, a => a.isMissing || Number.isNaN a.raw
  | truth, _ => false
  | character, _ => false
  | string, _ => false
  | instant, _ => false

variable {t : ElementType} {a b : t.Carrier}

lemma beq_eq_false_of_isAbsent (h : t.isAbsent a) : (b == a) = false := by
  cases t with
  | number t => exact beq_eq_false_of_isNaN (.inr h)
  | marked m t =>
    apply Bool.eq_false_iff.mpr
    intro hequal
    obtain ⟨-, hpresent, hraw⟩ := Marked.beq_iff.mp hequal
    rcases Bool.or_eq_true_iff.mp h with hmissing | hnan
    · exact hpresent hmissing
    · rw [beq_eq_false_of_isNaN (.inr hnan)] at hraw
      cases hraw
  | truth | character | string | instant => cases h

lemma beq_self_iff_not_isAbsent : a == a ↔ ¬t.isAbsent a := by
  constructor
  · intro hself habsent
    rw [beq_eq_false_of_isAbsent habsent] at hself
    cases hself
  · intro h
    cases t with
    | number t => exact beq_self_iff.mpr h
    | marked m t =>
      have hpresent : ¬a.isMissing ∧ ¬Number.isNaN a.raw := not_or.mp (mt Bool.or_eq_true_iff.mpr h)
      exact Marked.beq_iff.mpr ⟨hpresent.1, hpresent.1, beq_self_iff.mpr hpresent.2⟩
    | truth => exact beq_self_eq_true a
    | character => exact beq_self_eq_true a
    | string => exact beq_self_eq_true a
    | instant => exact beq_self_eq_true a

instance {t : ElementType} : PartialEquivBEq t.Carrier :=
  match t with
  | number t => inferInstanceAs (PartialEquivBEq t.Carrier)
  | marked m t => inferInstanceAs (PartialEquivBEq (Marked m t.Carrier))
  | truth => inferInstanceAs (PartialEquivBEq Bool)
  | character => inferInstanceAs (PartialEquivBEq Char)
  | string => inferInstanceAs (PartialEquivBEq String)
  | instant => inferInstanceAs (PartialEquivBEq Timestamp)

end ElementType

namespace CategorySet

variable {α : Type} [BEq α] {s : CategorySet α} {a b : α} {as : List α}

lemma contains_iff : s.contains a ↔ ∃ b ∈ s.members, b == a := List.any_eq_true

lemma members_add (s : CategorySet α) (a : α) :
    (s.add a).members = if s.contains a then s.members else s.members ++ [a] := by
  by_cases h : s.contains a = false
  · rw [add, dif_pos h, h]
    rfl
  · rw [add, dif_neg h, if_pos (Bool.not_eq_false _ ▸ h)]

lemma contains_add (h : s.contains a) : (s.add b).contains a := by
  obtain ⟨c, hc, hca⟩ := contains_iff.mp h
  apply contains_iff.mpr
  refine ⟨c, ?_, hca⟩
  rw [members_add]
  split
  · exact hc
  · exact List.mem_append_left _ hc

lemma contains_add_self (h : a == a) : (s.add a).contains a := by
  by_cases hcontains : s.contains a
  · exact contains_add hcontains
  · apply contains_iff.mpr
    refine ⟨a, ?_, h⟩
    rw [members_add, if_neg hcontains]
    exact List.mem_append_right _ List.mem_cons_self

lemma contains_extend (h : s.contains a) : (s.extend as).contains a := by
  induction as generalizing s with
  | nil => exact h
  | cons b as ih => exact ih (contains_add h)

lemma contains_extend_of_mem (ha : a ∈ as) (h : a == a) : (s.extend as).contains a := by
  induction as generalizing s with
  | nil => cases ha
  | cons b as ih =>
    rcases List.mem_cons.mp ha with rfl | ha
    · exact contains_extend (s := s.add a) (contains_add_self h)
    · exact ih ha

lemma contains_of_mem (ha : a ∈ as) (h : a == a) : (ofList as).contains a :=
  contains_extend_of_mem ha h

lemma addNew_of_contains (h : s.contains a) : s.addNew a = (false, s) := by
  rw [addNew, add, dif_neg (by simp [h]), h]
  rfl

lemma not_contains (h : ∀ b, (b == a) = false) : s.contains a = false := by
  apply List.any_eq_false.mpr
  intro b _
  rw [h b]
  exact Bool.false_ne_true

end CategorySet

namespace Labels

variable {α : Type} [BEq α] {l m : Labels α} {a : α} {label : String}

lemma mem_of_run_add [Legible α] (h : (add a label).run l = .ok () m) : ⟨a, label⟩ ∈ m.toList := by
  by_cases hvalue : l.HasValue a
  · rw [run_add_of_value hvalue] at h
    cases h
  by_cases hlabel : l.HasLabel label
  · rw [run_add_of_label hvalue hlabel] at h
    cases h
  obtain ⟨n, hn, hlist⟩ := exists_run_add hvalue hlabel
  rw [hn] at h
  cases h
  rw [hlist]
  exact List.mem_append_right _ List.mem_cons_self

lemma label?_of_mem [PartialEquivBEq α] (h : ⟨a, label⟩ ∈ l.toList) (ha : a == a) :
    l.label? a = some label := by
  obtain ⟨⟨k, b⟩, hmem, hentry⟩ := List.mem_map.mp h
  cases hentry
  obtain ⟨before, after, hentries⟩ := List.append_of_mem hmem
  exact label?_of_entries hentries ha

lemma label?_eq_none (h : ∀ b, (b == a) = false) : l.label? a = none := by
  have hnone : l.byLabel.entries.find? (fun e => e.2 == a) = none := by
    apply List.find?_eq_none.mpr
    intro e _
    rw [h e.2]
    exact Bool.false_ne_true
  rw [label?, hnone]
  rfl

end Labels

namespace DataVector

lemma mem_uncategorized_iff {α : Type} [BEq α] {v : DataVector α} {s : CategorySet α}
    (hs : v.categories = some s)
    {i : Nat} : i ∈ v.uncategorized ↔ ∃ a, v.data[i]? = some a ∧ ¬s.contains a := by
  rw [uncategorized, Window.uncategorized, window, hs]
  simp [List.mem_zipIdx_iff_getElem?]

lemma getElem?_labelled {α : Type} [BEq α] [Legible α] {v : DataVector α} {i : Nat} {a : α}
    (h : v.data[i]? = some a) :
    v.labelled[i]? = some ((v.labels.label? a).getD (display a)) := by
  change (v.data.map v.window.nameOf)[i]? = _
  rw [List.getElem?_map, h]
  rfl

open ElementType Labels

variable {t : ElementType} {v : DataVector t.Carrier}

lemma contains_ofList_iff {as : List t.Carrier} {a : t.Carrier} (ha : a ∈ as) :
    (CategorySet.ofList as).contains a ↔ ¬t.isAbsent a := by
  constructor
  · intro hcontains habsent
    rw [CategorySet.not_contains fun b => beq_eq_false_of_isAbsent habsent] at hcontains
    cases hcontains
  · intro hpresent
    exact CategorySet.contains_of_mem ha (beq_self_iff_not_isAbsent.mpr hpresent)

lemma mem_uncategorized_ofList_iff (hs : v.categories = some (.ofList v.data)) {i : Nat} :
    i ∈ v.uncategorized ↔ ∃ a, v.data[i]? = some a ∧ t.isAbsent a := by
  rw [mem_uncategorized_iff hs]
  refine exists_congr fun a => and_congr_right fun ha => ?_
  rw [contains_ofList_iff (List.mem_of_getElem? ha), not_not]

lemma uncategorized_ofList_eq_nil_iff (hs : v.categories = some (.ofList v.data)) :
    v.uncategorized = [] ↔ ∀ a ∈ v.data, ¬t.isAbsent a := by
  simp only [List.eq_nil_iff_forall_not_mem, mem_uncategorized_ofList_iff hs, not_exists, not_and]
  constructor
  · intro hnone a ha
    obtain ⟨i, hi⟩ := List.mem_iff_getElem?.mp ha
    exact hnone i a hi
  · intro hpresent i a hi
    exact hpresent a (List.mem_of_getElem? hi)

lemma getElem?_labelled_of_mem {a : t.Carrier} {label : String} {i : Nat}
    (hlabelled : ⟨a, label⟩ ∈ v.labels.toList) (hi : v.data[i]? = some a) :
    v.labelled[i]? = some (if t.isAbsent a then display a else label) := by
  rw [getElem?_labelled hi]
  by_cases habsent : t.isAbsent a
  · rw [if_pos habsent, label?_eq_none fun b => beq_eq_false_of_isAbsent habsent]
    rfl
  · rw [if_neg habsent, label?_of_mem hlabelled (beq_self_iff_not_isAbsent.mpr habsent)]
    rfl

/-- Only what equals itself is covered by annotations that come from the data. -/
theorem covered_iff_present (t : ElementType) (v : DataVector t.Carrier) :
    (v.categories = some (.ofList v.data) →
      (v.uncategorized = [] ↔ ∀ a ∈ v.data, ¬t.isAbsent a) ∧
      ∀ i, i ∈ v.uncategorized ↔ ∃ a, v.data[i]? = some a ∧ t.isAbsent a) ∧
    (∀ a ∈ v.data, ¬t.isAbsent a → (CategorySet.ofList v.data).addNew a = (false, .ofList v.data)) ∧
    (∀ a, t.isAbsent a → ∀ s : CategorySet t.Carrier,
      (s.addNew a).1 = true ∧ (s.addNew a).2.members = s.members ++ [a]) ∧
    ∀ (a : t.Carrier) (label : String),
      (∀ l m : Labels t.Carrier, (add a label).run l = .ok () m → ⟨a, label⟩ ∈ m.toList) ∧
      (⟨a, label⟩ ∈ v.labels.toList → ∀ i : Nat, v.data[i]? = some a →
        v.labelled[i]? = some (if t.isAbsent a then display a else label)) := by
  refine ⟨fun hs => ⟨uncategorized_ofList_eq_nil_iff hs, fun i => mem_uncategorized_ofList_iff hs⟩,
    ?_, ?_, fun a label => ⟨fun l m => mem_of_run_add, fun h i => getElem?_labelled_of_mem h⟩⟩
  · intro a ha hpresent
    exact CategorySet.addNew_of_contains ((contains_ofList_iff ha).mpr hpresent)
  · intro a habsent s
    have hnew := CategorySet.not_contains (s := s) fun b => beq_eq_false_of_isAbsent habsent
    rw [CategorySet.addNew, hnew, CategorySet.members_add, hnew]
    exact ⟨rfl, rfl⟩

theorem covered_iff_present_int8 :
    let five : Marked .greatest (Fixed .int8) := ⟨.wrap .int8 5⟩
    ∃ v : DataVector (Marked .greatest (Fixed .int8)), v.data = [five, .missing] ∧
      v.categories = some (.ofList v.data) ∧ (add five "five").run ∅ = .ok () v.labels ∧
      1 ∈ v.uncategorized ∧ 0 ∉ v.uncategorized ∧
      (CategorySet.ofList v.data).addNew five = (false, .ofList v.data) ∧
      ((CategorySet.ofList v.data).addNew .missing).1 = true ∧ v.labelled[0]? = some "five" := by
  intro five
  obtain ⟨v, hdata, hcategories, hlabels⟩ : ∃ v : DataVector (Marked .greatest (Fixed .int8)),
      v.data = [five, .missing] ∧ v.categories = some (.ofList v.data) ∧
        (add five "five").run ∅ = .ok () v.labels :=
    ⟨⟨_, some (.ofList [five, .missing]), _⟩, rfl, rfl, rfl⟩
  have hfive : v.data[0]? = some five := by rw [hdata]; rfl
  have hmissing : v.data[1]? = some .missing := by rw [hdata]; rfl
  obtain ⟨hpositions, hpresent, habsent, hnames⟩ :=
    covered_iff_present (.marked .greatest (.integer .int8)) v
  obtain ⟨-, hmem⟩ := hpositions hcategories
  refine ⟨v, hdata, hcategories, hlabels, (hmem 1).mpr ⟨.missing, hmissing, rfl⟩, ?_, ?_, ?_, ?_⟩
  · rintro hzero
    obtain ⟨a, ha, habsent⟩ := (hmem 0).mp hzero
    cases Option.some.inj (hfive.symm.trans ha)
    exact Bool.false_ne_true habsent
  · exact hpresent five (List.mem_of_getElem? hfive) Bool.false_ne_true
  · exact (habsent .missing rfl _).1
  · obtain ⟨hadded, hname⟩ := hnames five "five"
    exact hname (hadded ∅ v.labels hlabels) 0 hfive

theorem absent_not_covered :
    let xs : List (Marked .least Float) := [.missing, ⟨Floating.nan⟩]
    ∃ v : DataVector (Marked .least Float), v.data = xs ∧ v.categories = some (.ofList xs) ∧
      (add .missing "none").run ∅ = .ok () v.labels ∧ v.uncategorized = [0, 1] ∧
      ((CategorySet.ofList xs).addNew .missing).1 = true ∧
      ((CategorySet.ofList xs).addNew ⟨Floating.nan⟩).1 = true ∧ v.labelled = ["NA", "NaN"] :=
  ⟨⟨_, _, _⟩, rfl, rfl, rfl, rfl, rfl, rfl, rfl⟩

end DataVector

end Columnar
