import Columnar.Proofs.Annotated.Coverage
import Columnar.Proofs.Annotated.RoundTrip
import Columnar.Proofs.Json.Scalars

/-! A category set that is collected from values holds those that no earlier value equals. -/

namespace Columnar

open Codec Json

variable {α : Type} [BEq α]

instance (as : List α) : Decidable (Distinct as) := inferInstanceAs (Decidable (as.Pairwise _))

def firstOccurrences (as : List α) : List α :=
  (as.zipIdx.filter fun (a, i) => !(as.take i).any fun b => b == a).map Prod.fst

def FirstRepeat (as : List α) (a : α) : Prop :=
  ∃ before after, as = before ++ a :: after ∧ Distinct before ∧ ∃ b ∈ before, b == a

lemma firstOccurrences_concat (as : List α) (a : α) :
    firstOccurrences (as ++ [a]) =
      firstOccurrences as ++ if as.any fun b => b == a then [] else [a] := by
  have hbefore : as.zipIdx.filter (fun (b, i) => !((as ++ [a]).take i).any fun c => c == b) =
      as.zipIdx.filter fun (b, i) => !(as.take i).any fun c => c == b := by
    apply List.filter_congr
    rintro ⟨b, i⟩ hmem
    obtain ⟨hi, -⟩ := List.mem_zipIdx' hmem
    dsimp only
    rw [List.take_append_of_le_length (Nat.le_of_lt hi)]
  rw [firstOccurrences, List.zipIdx_append, List.filter_append, List.map_append, hbefore]
  congr 1
  cases hany : as.any fun b => b == a with
  | true => simp [hany]
  | false => simp [hany]

lemma exists_firstRepeat {as : List α} (h : ¬Distinct as) : ∃ a, FirstRepeat as a := by
  induction as using List.reverseRecOn with
  | nil => exact absurd distinct_nil h
  | append_singleton as a ih =>
    by_cases hdistinct : Distinct as
    · refine ⟨a, as, [], rfl, hdistinct, ?_⟩
      by_contra hnew
      simp only [not_exists, not_and, Bool.not_eq_true] at hnew
      refine h (List.pairwise_append.mpr ⟨hdistinct, List.pairwise_singleton .., ?_⟩)
      simpa using hnew
    · obtain ⟨b, before, after, rfl, hrepeat⟩ := ih hdistinct
      exact ⟨b, before, after ++ [a], by simp, hrepeat⟩

namespace CategorySet

variable {s t : CategorySet α} {a : α} {as : List α}

lemma extend_append (s : CategorySet α) (as bs : List α) :
    s.extend (as ++ bs) = (s.extend as).extend bs :=
  List.foldl_append

lemma extend_eq (h : t.members = s.members ++ as) : s.extend as = t := by
  induction as generalizing s with
  | nil =>
    rw [List.append_nil] at h
    exact (eq_of_members h).symm
  | cons a as ih =>
    apply ih
    rw [members_add, contains_eq_false h, h]
    exact (List.append_assoc s.members [a] as).symm

lemma ofList_members (s : CategorySet α) : ofList s.members = s :=
  extend_eq (List.nil_append _).symm

lemma ofList_of_distinct (h : Distinct as) : ofList as = ⟨as, h⟩ := ofList_members ⟨as, h⟩

lemma ofList_concat (as : List α) (a : α) : ofList (as ++ [a]) = (ofList as).add a :=
  extend_append empty as [a]

lemma mem_of_mem_ofList (h : a ∈ (ofList as).members) : a ∈ as := by
  induction as using List.reverseRecOn with
  | nil => exact h
  | append_singleton as b ih =>
    rw [ofList_concat, members_add] at h
    split at h
    · exact List.mem_append_left [b] (ih h)
    · rcases List.mem_append.mp h with h | h
      · exact List.mem_append_left [b] (ih h)
      · exact List.mem_append_right as h

section Equivalence

variable [PartialEquivBEq α]

lemma contains_ofList (as : List α) (a : α) : (ofList as).contains a = as.any fun b => b == a := by
  rw [Bool.eq_iff_iff, contains_iff, List.any_eq_true]
  constructor
  · rintro ⟨b, hb, hba⟩
    exact ⟨b, mem_of_mem_ofList hb, hba⟩
  · rintro ⟨b, hb, hba⟩
    have hself : b == b := BEq.trans hba (BEq.symm hba)
    obtain ⟨c, hc, hcb⟩ := contains_iff.mp (contains_of_mem hb hself)
    exact ⟨c, hc, BEq.trans hcb hba⟩

lemma members_ofList (as : List α) : (ofList as).members = firstOccurrences as := by
  induction as using List.reverseRecOn with
  | nil => rfl
  | append_singleton as a ih =>
    rw [ofList_concat, members_add, contains_ofList, ih, firstOccurrences_concat]
    split
    · exact (List.append_nil _).symm
    · rfl

lemma pairwise_members (s : CategorySet α) :
    s.members.Pairwise fun a b => (a == b) = false ∧ (b == a) = false := by
  apply s.distinct.imp
  intro a b h
  exact ⟨h, BEq.comm.trans h⟩

lemma exists_remove (h : s.contains a) :
    ∃ before b after, s.members = before ++ b :: after ∧ b == a ∧
      (∀ c ∈ before ++ after, (c == a) = false) ∧
      ∃ t, s.remove a = (true, t) ∧ t.members = before ++ after := by
  obtain ⟨b, hb, hba⟩ := contains_iff.mp h
  obtain ⟨before, after, hmembers⟩ := List.append_of_mem hb
  have hne : ∀ c ∈ before ++ after, (c == a) = false := by
    have hpairwise := s.pairwise_members
    rw [hmembers, List.pairwise_middle fun h => h.symm] at hpairwise
    intro c hc
    obtain ⟨hbc, -⟩ := (List.pairwise_cons.mp hpairwise).1 c hc
    apply Bool.eq_false_iff.mpr
    intro hca
    rw [BEq.trans hba (BEq.symm hca)] at hbc
    cases hbc
  have hbefore : ∀ c ∈ before, ¬(c == a) = true := by
    intro c hc
    rw [hne c (List.mem_append_left after hc)]
    exact Bool.false_ne_true
  refine ⟨before, b, after, hmembers, hba, hne, s.erase a, ?_, ?_⟩
  · rw [remove, h]
  · change s.members.eraseP (fun c => c == a) = before ++ after
    rw [hmembers, List.eraseP_append_right _ hbefore, List.eraseP_cons, hba]
    rfl

end Equivalence

lemma remove_of_not_contains (h : s.contains a = false) : s.remove a = (false, s) := by
  have herase : s.erase a = s := eq_of_members (List.eraseP_of_forall_not (List.any_eq_false.mp h))
  rw [remove, h, herase]

inductive Change (α : Type) where
  | add (a : α)
  | remove (a : α)
  | extend (as : List α)
  | clear

def Change.result (s : CategorySet α) : Change α → CategorySet α
  | .add a => (s.addNew a).2
  | .remove a => (s.remove a).2
  | .extend as => s.extend as
  | .clear => empty

def afterChanges (s : CategorySet α) (changes : List (Change α)) : CategorySet α :=
  changes.foldl (fun s c => c.result s) s

def Change.expected (as : List α) : Change α → List α
  | .add a => firstOccurrences (as ++ [a])
  | .remove a => as.filter fun b => !b == a
  | .extend bs => firstOccurrences (as ++ bs)
  | .clear => []

section Changes

variable [PartialEquivBEq α]

lemma members_extend (s : CategorySet α) (as : List α) :
    (s.extend as).members = firstOccurrences (s.members ++ as) := by
  rw [← members_ofList, ofList, extend_append, ← ofList, ofList_members]

lemma members_erase (s : CategorySet α) (a : α) :
    (s.erase a).members = s.members.filter fun b => !b == a := by
  by_cases h : s.contains a
  · obtain ⟨before, b, after, hmembers, hba, hne, t, ht, htmembers⟩ := exists_remove h
    obtain ⟨-, rfl⟩ := Prod.mk.inj ht
    have hrest : (before ++ after).filter (fun c => !c == a) = before ++ after :=
      List.filter_eq_self.mpr fun c hc => by rw [hne c hc, Bool.not_false]
    rw [htmembers, hmembers, List.filter_append, List.filter_cons_of_neg (by simp [hba]),
      ← List.filter_append, hrest]
  · rw [Bool.not_eq_true] at h
    obtain ⟨-, herase⟩ := Prod.mk.inj (remove_of_not_contains h)
    rw [herase, List.filter_eq_self.mpr fun b hb => by simpa using List.any_eq_false.mp h b hb]

lemma members_result (s : CategorySet α) (c : Change α) :
    (c.result s).members = c.expected s.members := by
  cases c with
  | add a => exact members_extend s [a]
  | remove a => exact members_erase s a
  | extend as => exact members_extend s as
  | clear => rfl

lemma members_afterChanges (s : CategorySet α) (changes : List (Change α)) :
    (s.afterChanges changes).members = changes.foldl (fun as c => c.expected as) s.members := by
  induction changes generalizing s with
  | nil => rfl
  | cons c changes ih =>
    rw [List.foldl_cons, ← members_result]
    exact ih (c.result s)

end Changes

variable [Legible α]

def repeated (a : α) : Error := .invalidData (.duplicateCategory (Legible.inspect a))

lemma ofDistinct_of_distinct (h : Distinct as) : ofDistinct as = .ok (ofList as) := by
  rw [ofList_of_distinct h]
  exact extendDistinct_eq_ok (List.nil_append _).symm

lemma extendDistinct_append (s : CategorySet α) (as bs : List α) :
    s.extendDistinct (as ++ bs) = (s.extendDistinct as >>= fun t => t.extendDistinct bs) := by
  induction as generalizing s with
  | nil => rfl
  | cons a as ih =>
    rw [List.cons_append, extendDistinct, extendDistinct]
    split
    · exact ih _
    · rfl

lemma ofDistinct_of_firstRepeat (h : FirstRepeat as a) : ofDistinct as = .error (repeated a) := by
  obtain ⟨before, after, rfl, hdistinct, hearlier⟩ := h
  have hbefore : empty.extendDistinct before = .ok (⟨before, hdistinct⟩ : CategorySet α) :=
    extendDistinct_eq_ok (List.nil_append _).symm
  have hcontains : (⟨before, hdistinct⟩ : CategorySet α).contains a := contains_iff.mpr hearlier
  rw [ofDistinct, extendDistinct_append, hbefore]
  change extendDistinct ⟨before, hdistinct⟩ (a :: after) = _
  rw [extendDistinct, dif_neg (by simp [hcontains])]
  rfl

lemma ofDistinct_eq_ok_iff : ofDistinct as = .ok s ↔ Distinct as ∧ s = ofList as := by
  by_cases h : Distinct as
  · rw [ofDistinct_of_distinct h]
    simp [h, eq_comm]
  · obtain ⟨a, ha⟩ := exists_firstRepeat h
    rw [ofDistinct_of_firstRepeat ha]
    simp [h]

variable [Codec α] {text : String}

lemma decode_eq_bind (source : Source) (v : Json) :
    decode source v =
      ((decode source v : Decoded (List α)) >>= fun as => accept (ofDistinct as) :
        Decoded (CategorySet α)) := rfl

lemma ofText_eq_ok_iff :
    ofText text = .ok s ↔ ∃ as : List α, ofText text = .ok as ∧ Distinct as ∧ s = ofList as := by
  simp only [Codec.ofText_eq_ok_iff, decode_eq_bind, bind_eq_ok, accept_eq_ok_iff,
    ofDistinct_eq_ok_iff]
  constructor
  · rintro ⟨⟨as, has, hset⟩, hclean⟩
    exact ⟨as, ⟨has, hclean⟩, hset⟩
  · rintro ⟨as, ⟨has, hclean⟩, hset⟩
    exact ⟨⟨as, has, hset⟩, hclean⟩

lemma ofText_of_firstRepeat (has : ofText text = .ok as) (h : FirstRepeat as a) :
    ofText text = (.error (.refused (repeated a)) : Decoded (CategorySet α)) := by
  obtain ⟨has, hclean⟩ := Codec.ofText_eq_ok_iff.mp has
  rw [Codec.ofText_of_clean hclean, decode_eq_bind, has]
  change accept (ofDistinct as) = _
  rw [ofDistinct_of_firstRepeat h]
  rfl

lemma ofText_frozen (text : String) :
    (ofText text : Decoded (FrozenCategorySet α)) =
      (ofText text : Decoded (CategorySet α)).map freeze := by
  change ((decode .direct (read text.toList).1 : Decoded (CategorySet α)).map freeze >>= fun z =>
      if (read text.toList).2 then pure z else throw Fault.unreadable) =
    ((decode .direct (read text.toList).1 : Decoded (CategorySet α)) >>= fun s =>
      if (read text.toList).2 then pure s else throw Fault.unreadable).map freeze
  cases (decode .direct (read text.toList).1 : Decoded (CategorySet α)) with
  | error e => rfl
  | ok s => cases (read text.toList).2 <;> rfl

theorem members_first_occurrences [PartialEquivBEq α] :
    (∀ s : CategorySet α, s.members.Pairwise (fun a b => (a == b) = false ∧ (b == a) = false) ∧
      ofList s.members = s ∧ Categories.members s.freeze = s.members) ∧
    (∀ as : List α, (ofList as).members = firstOccurrences as ∧
      ∀ a, (∃ b ∈ as, b == a) ↔ ∃ b ∈ (ofList as).members, b == a) ∧
    (∀ as bs : List α, ofList (as ++ bs) = (ofList as).extend bs) ∧
    (∀ as : List α, (Distinct as ∨ ∃ a, FirstRepeat as a) ∧
      (Distinct as → ofDistinct as = .ok (ofList as)) ∧
      ∀ a, FirstRepeat as a → ofDistinct as = .error (repeated a)) ∧
    (∀ text : String,
      (∀ s : CategorySet α,
        ofText text = .ok s ↔ ∃ as : List α, ofText text = .ok as ∧ Distinct as ∧ s = ofList as) ∧
      (∀ (as : List α) (a : α), ofText text = .ok as → FirstRepeat as a →
        ofText text = (.error (.refused (repeated a)) : Decoded (CategorySet α))) ∧
      (ofText text : Decoded (FrozenCategorySet α)) =
        (ofText text : Decoded (CategorySet α)).map freeze) ∧
    (∀ (s : CategorySet α) (changes : List (Change α)),
      (s.afterChanges changes).members = changes.foldl (fun as c => c.expected as) s.members) ∧
    ∀ (s : CategorySet α) (a : α),
      ((∀ b ∈ s.members, (b == a) = false) →
        ((s.addNew a).1 = true ∧ (s.addNew a).2.members = s.members ++ [a]) ∧
        s.remove a = (false, s)) ∧
      ((∃ b ∈ s.members, b == a) → s.addNew a = (false, s) ∧
        ∃ before b after, s.members = before ++ b :: after ∧ b == a ∧
          (∀ c ∈ before ++ after, (c == a) = false) ∧
          ∃ t, s.remove a = (true, t) ∧ t.members = before ++ after) := by
  refine ⟨fun s => ⟨s.pairwise_members, s.ofList_members, rfl⟩, ?_, extend_append empty, ?_, ?_,
    members_afterChanges, ?_⟩
  · intro as
    refine ⟨members_ofList as, fun a => ?_⟩
    rw [← List.any_eq_true, ← contains_iff, contains_ofList]
  · intro as
    exact ⟨or_iff_not_imp_left.mpr exists_firstRepeat, ofDistinct_of_distinct,
      fun a => ofDistinct_of_firstRepeat⟩
  · intro text
    exact ⟨fun s => ofText_eq_ok_iff, fun as a => ofText_of_firstRepeat, ofText_frozen text⟩
  · intro s a
    constructor
    · intro hnew
      have hcontains : s.contains a = false :=
        List.any_eq_false.mpr fun b hb => Bool.not_eq_true _ ▸ hnew b hb
      refine ⟨?_, remove_of_not_contains hcontains⟩
      rw [addNew, members_add, hcontains]
      exact ⟨rfl, rfl⟩
    · intro hpresent
      have hcontains := contains_iff.mpr hpresent
      exact ⟨addNew_of_contains hcontains, exists_remove hcontains⟩

theorem members_first_occurrences_missing :
    let five : Marked .greatest (Fixed .int8) := ⟨.wrap .int8 5⟩
    (ofList [five, .missing, five, .missing]).members = [five, .missing, .missing] ∧
      ofText "[null,5,null]" = .ok (ofList [.missing, five, .missing]) ∧
      ofDistinct [five, .missing, five] = .error (.invalidData (.duplicateCategory "NaInt(5)")) ∧
      (ofText "[5,null,5]" : Decoded (CategorySet (Marked .greatest (Fixed .int8)))) =
        .error (.refused (.invalidData (.duplicateCategory "NaInt(5)"))) ∧
      (empty.afterChanges [.add five, .add .missing, .remove five,
        .extend [.missing, five, five]]).members = [.missing, .missing, five] := by
  intro five
  have hdefect : repeated five = .invalidData (.duplicateCategory "NaInt(5)") := by decide +kernel
  have hmissing : Distinct [.missing, five, .missing] := by decide
  have hfive : FirstRepeat [five, .missing, five] five :=
    ⟨[five, .missing], [], rfl, by decide, five, List.mem_cons_self, rfl⟩
  have hread (as : List (ElementType.marked .greatest (.integer .int8)).Carrier) :
      ofText (toText as) = .ok as :=
    (ofText_toText (canonical_list fun a _ => ElementType.canonical_carrier rfl a)).trans
      (decode_list fun a _ => ElementType.decode_carrier rfl a)
  have hdistinctText : toText [.missing, five, .missing] = "[null,5,null]" := by decide +kernel
  have hrepeatText : toText [five, .missing, five] = "[5,null,5]" := by decide +kernel
  obtain ⟨-, hcollect, -, hdistinct, htext, hchanges, -⟩ :=
    members_first_occurrences (α := Marked .greatest (Fixed .int8))
  rw [← hdefect, ← hdistinctText, ← hrepeatText]
  exact ⟨(hcollect _).1, ((htext _).1 _).mpr ⟨_, hread _, hmissing, rfl⟩,
    (hdistinct _).2.2 five hfive, (htext _).2.1 _ five (hread _) hfive, hchanges empty _⟩

end CategorySet

end Columnar
