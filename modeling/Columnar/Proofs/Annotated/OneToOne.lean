import Columnar.Annotated.Labels
import Columnar.Proofs.Missing.Sentinel
import Columnar.Proofs.OrderedMap
import Mathlib.Data.List.Pairwise

namespace Columnar.Labels

variable {α : Type} [BEq α] {l m : Labels α} {k : String} {a b : α}
    {before after : List (String × α)}

lemma eq_of_entries (h : l.byLabel.entries = m.byLabel.entries) : l = m := by
  cases l
  cases m
  cases OrderedMap.eq_of_entries h
  rfl

def ofEntries (es : List (String × α)) : List (ValueLabel α) := es.map fun (k, a) => ⟨a, k⟩

def HasValue (l : Labels α) (a : α) : Prop := ∃ e ∈ l.toList, e.value == a

def HasLabel (l : Labels α) (label : String) : Prop := ∃ e ∈ l.toList, e.label = label

lemma toList_eq (l : Labels α) : l.toList = ofEntries l.byLabel.entries := rfl

lemma containsValue_iff : l.containsValue a ↔ l.HasValue a := by
  simp [containsValue, OrderedMap.values, HasValue, toList_eq, ofEntries]

lemma mem_byLabel_iff : k ∈ l.byLabel ↔ l.HasLabel k := by
  change k ∈ l.byLabel.entries.map Prod.fst ↔ _
  simp [HasLabel, toList_eq, ofEntries]

lemma exists_entries (h : l.HasValue a) :
    ∃ before k b after, l.byLabel.entries = before ++ (k, b) :: after ∧ b == a := by
  obtain ⟨e, he, ha⟩ := h
  obtain ⟨⟨k, b⟩, hmem, rfl⟩ := List.mem_map.mp he
  obtain ⟨before, after, hentries⟩ := List.append_of_mem hmem
  exact ⟨before, k, b, after, hentries, ha⟩

section Add

variable [Legible α]

lemma run_add_of_new (hvalue : l.containsValue a = false) (hlabel : k ∉ l.byLabel) :
    (add a k).run l = .ok () (l.push a k hvalue hlabel) := by
  simp [add, hvalue, hlabel]

lemma run_add_of_value (h : l.HasValue a) :
    (add a k).run l = .error (.duplicateLabel "value" (display a)) l := by
  simp [add, containsValue_iff.mpr h]

lemma run_add_of_label (hvalue : ¬ l.HasValue a) (hlabel : l.HasLabel k) :
    (add a k).run l = .error (.duplicateLabel "label" k) l := by
  have hnew : l.containsValue a = false := Bool.eq_false_iff.mpr (mt containsValue_iff.mp hvalue)
  simp [add, hnew, mem_byLabel_iff.mpr hlabel]

lemma exists_run_add (hvalue : ¬ l.HasValue a) (hlabel : ¬ l.HasLabel k) :
    ∃ m, (add a k).run l = .ok () m ∧ m.toList = l.toList ++ [⟨a, k⟩] := by
  have hnew : l.containsValue a = false := Bool.eq_false_iff.mpr (mt containsValue_iff.mp hvalue)
  exact ⟨_, run_add_of_new hnew (mt mem_byLabel_iff.mp hlabel), List.map_append⟩

end Add

lemma run_remove : (remove a).run l = .ok (l.label? a) (l.erase a) := rfl

lemma run_remove_of_not (h : ¬ l.HasValue a) : (remove a).run l = .ok none l := by
  have hne : ∀ e ∈ l.byLabel.entries, ¬ e.2 == a := by
    intro e he ha
    exact h ⟨⟨e.2, e.1⟩, List.mem_map_of_mem he, ha⟩
  have hlabel : l.label? a = none := by
    rw [label?, List.find?_eq_none.mpr hne]
    rfl
  have herase : l.erase a = l := eq_of_entries (List.eraseP_of_forall_not hne)
  rw [run_remove, hlabel, herase]

section Distinct

variable [PartialEquivBEq α]

lemma pairwise_entries (l : Labels α) : l.byLabel.entries.Pairwise fun e f =>
    e.1 ≠ f.1 ∧ (e.2 == f.2) = false ∧ (f.2 == e.2) = false := by
  have hlabels := List.pairwise_map.mp l.byLabel.nodup
  have hvalues := List.pairwise_map.mp l.distinct
  apply (hlabels.and hvalues).imp
  rintro e f ⟨hlabel, hvalue⟩
  exact ⟨hlabel, hvalue, BEq.comm.trans hvalue⟩

lemma value_ne_around (h : l.byLabel.entries = before ++ (k, b) :: after) (hb : b == a) :
    ∀ e ∈ before ++ after, ¬ e.2 == a := by
  have hpairwise := l.pairwise_entries
  rw [h, List.pairwise_middle] at hpairwise
  · intro e he ha
    obtain ⟨-, hne, -⟩ := (List.pairwise_cons.mp hpairwise).1 e he
    rw [BEq.trans hb (BEq.symm ha)] at hne
    cases hne
  · rintro e f ⟨hlabel, hvalue, hvalue'⟩
    exact ⟨hlabel.symm, hvalue', hvalue⟩

lemma label?_of_entries (h : l.byLabel.entries = before ++ (k, b) :: after) (hb : b == a) :
    l.label? a = some k := by
  have hfind : l.byLabel.entries.find? (fun e => e.2 == a) = some (k, b) := by
    rw [List.find?_eq_some_iff_append]
    refine ⟨hb, before, after, h, fun e he => ?_⟩
    simpa using value_ne_around h hb e (List.mem_append_left after he)
  rw [label?, hfind]
  rfl

lemma entries_erase_of_entries (h : l.byLabel.entries = before ++ (k, b) :: after) (hb : b == a) :
    (l.erase a).byLabel.entries = before ++ after := by
  have hbefore : ∀ e ∈ before, ¬ e.2 == a := fun e he =>
    value_ne_around h hb e (List.mem_append_left after he)
  change l.byLabel.entries.eraseP (fun e => e.2 == a) = before ++ after
  rw [h, List.eraseP_append_right _ hbefore, List.eraseP_cons, hb]
  rfl

lemma exists_run_remove (h : l.HasValue a) :
    ∃ before e after, l.toList = before ++ e :: after ∧ e.value == a ∧
      (∀ f ∈ before ++ after, ¬ f.value == a) ∧
      ∃ m, (remove a).run l = .ok (some e.label) m ∧ m.toList = before ++ after := by
  obtain ⟨before, k, b, after, hentries, hb⟩ := exists_entries h
  refine ⟨ofEntries before, ⟨b, k⟩, ofEntries after, ?_, hb, ?_, l.erase a, ?_, ?_⟩
  · rw [toList_eq, hentries]
    exact List.map_append
  · intro f hf
    rw [ofEntries, ofEntries, ← List.map_append] at hf
    obtain ⟨e, he, rfl⟩ := List.mem_map.mp hf
    exact value_ne_around hentries hb e he
  · rw [run_remove, label?_of_entries hentries hb]
  · rw [toList_eq, entries_erase_of_entries hentries hb]
    exact List.map_append

theorem one_to_one [Legible α] (l : Labels α) :
    (l.toList.Pairwise fun e f =>
      e.label ≠ f.label ∧ (e.value == f.value) = false ∧ (f.value == e.value) = false) ∧
    (∀ e ∈ l.toList, l.value? e.label = some e.value ∧
      (e.value == e.value → l.label? e.value = some e.label)) ∧
    (∀ a label,
      (l.HasValue a → (add a label).run l = .error (.duplicateLabel "value" (display a)) l) ∧
      (¬ l.HasValue a → l.HasLabel label →
        (add a label).run l = .error (.duplicateLabel "label" label) l) ∧
      (¬ l.HasValue a → ¬ l.HasLabel label →
        ∃ m, (add a label).run l = .ok () m ∧ m.toList = l.toList ++ [⟨a, label⟩])) ∧
    (∀ a,
      (l.HasValue a → ∃ before e after, l.toList = before ++ e :: after ∧ e.value == a ∧
        (∀ f ∈ before ++ after, ¬ f.value == a) ∧
        ∃ m, (remove a).run l = .ok (some e.label) m ∧ m.toList = before ++ after) ∧
      (¬ l.HasValue a → (remove a).run l = .ok none l)) := by
  refine ⟨List.pairwise_map.mpr l.pairwise_entries, ?_, ?_, ?_⟩
  · intro e he
    obtain ⟨⟨k, a⟩, hmem, rfl⟩ := List.mem_map.mp he
    obtain ⟨before, after, hentries⟩ := List.append_of_mem hmem
    exact ⟨OrderedMap.find?_of_entries hentries, label?_of_entries hentries⟩
  · intro a label
    exact ⟨run_add_of_value, run_add_of_label, exists_run_add⟩
  · intro a
    exact ⟨exists_run_remove, run_remove_of_not⟩

end Distinct

theorem one_to_one_missing :
    let number (n : Int) : Marked .greatest (Fixed .int8) := ⟨.wrap .int8 n⟩
    ∃ l, ofList [⟨.missing, "a"⟩, ⟨number 5, "b"⟩, ⟨.missing, "c"⟩] = .ok l ∧
      l.value? "c" = some .missing ∧ l.label? (number 5) = some "b" ∧
      (add (number 5) "a").run l = .error (.duplicateLabel "value" "5") l ∧
      (add .missing "a").run l = .error (.duplicateLabel "label" "a") l ∧
      (remove .missing).run l = .ok none l := by
  intro number
  obtain ⟨l, hl, hlist⟩ : ∃ l, ofList [⟨.missing, "a"⟩, ⟨number 5, "b"⟩, ⟨.missing, "c"⟩] = .ok l ∧
      l.toList = [⟨.missing, "a"⟩, ⟨number 5, "b"⟩, ⟨.missing, "c"⟩] := ⟨_, rfl, rfl⟩
  obtain ⟨-, hlookup, hadd, hremove⟩ := one_to_one l
  have hfive : ⟨number 5, "b"⟩ ∈ l.toList := by simp [hlist]
  have hmissing : ¬ l.HasValue .missing := by
    rintro ⟨e, -, he⟩
    exact (Marked.beq_iff.mp he).2.1 rfl
  have htext : display (number 5) = "5" := by decide +kernel
  refine ⟨l, hl, ?_, ?_, ?_, ?_, ?_⟩
  · exact (hlookup ⟨.missing, "c"⟩ (by simp [hlist])).1
  · exact (hlookup _ hfive).2 rfl
  · rw [← htext]
    exact (hadd (number 5) "a").1 ⟨_, hfive, rfl⟩
  · exact (hadd .missing "a").2.1 hmissing ⟨⟨.missing, "a"⟩, by simp [hlist], rfl⟩
  · exact (hremove .missing).2 hmissing

end Columnar.Labels
