import Columnar.Annotated.DataVector
import Columnar.Proofs.Annotated.OneToOne
import Columnar.Proofs.Json.Containers

/-! Annotated data are read back with their annotations if all the values in them are, and not at
all if none of these is. -/

namespace Columnar

open Json

variable {α : Type} [BEq α] {source : Source} {depth : Nat} {e : Fault}

namespace CategorySet

variable {s t : CategorySet α}

lemma eq_of_members (h : s.members = t.members) : s = t := by
  cases s
  cases t
  cases h
  rfl

lemma contains_eq_false {as : List α} {a : α} (h : t.members = s.members ++ a :: as) :
    s.contains a = false := by
  have hdistinct := t.distinct
  rw [h, Distinct, List.pairwise_append] at hdistinct
  apply List.any_eq_false.mpr
  intro b hb
  rw [hdistinct.2.2 b hb a List.mem_cons_self]
  exact Bool.false_ne_true

variable [Legible α]

lemma extendDistinct_eq_ok {as : List α} (h : t.members = s.members ++ as) :
    s.extendDistinct as = .ok t := by
  induction as generalizing s with
  | nil =>
    rw [List.append_nil] at h
    rw [extendDistinct, eq_of_members h]
  | cons a as ih =>
    rw [extendDistinct, dif_pos (contains_eq_false h)]
    apply ih
    rw [h, push, List.append_assoc, List.singleton_append]

variable [Codec α]

lemma decode_eq_ok (h : ∀ a ∈ s.members, decode source (encode a) = .ok a) :
    decode source (encode s) = .ok s := by
  have hmembers : decode source (encode s.members) = .ok s.members := decode_list h
  have hset : ofDistinct s.members = .ok s := extendDistinct_eq_ok (List.nil_append _).symm
  change (decode source (encode s.members) >>= fun as => Json.accept (ofDistinct as)) = .ok s
  rw [hmembers]
  exact accept_eq_ok_iff.mpr hset

lemma decode_eq_error (hne : s.members ≠ [])
    (h : ∀ a : α, decode source (encode a) = (.error e : Decoded α)) :
    decode source (encode s) = (.error e : Decoded (CategorySet α)) := by
  have hmembers : decode source (encode s.members) = (.error e : Decoded (List α)) :=
    decode_list_error hne h
  change (decode source (encode s.members) >>= fun as => Json.accept (ofDistinct as)) = .error e
  rw [hmembers]
  rfl

end CategorySet

namespace ValueLabel

variable [Codec α] {l : ValueLabel α}

omit [BEq α]

lemma canonical_encode (h : (encode l.value).Canonical) : (encode l).Canonical := by
  apply Canonical.object
  rw [List.forall_mem_cons, List.forall_mem_singleton]
  exact ⟨h, .string l.label⟩

lemma buffers_encode (h : buffers depth (encode l.value)) : buffers (depth + 1) (encode l) := by
  apply buffers_ofMembers
  rw [List.forall_mem_cons, List.forall_mem_singleton]
  exact ⟨h, rfl⟩

lemma decode_encode : decode source (encode l) =
    (do
      let parts ← (readMembersOf source true fields []
        (named [("value", encode l.value), ("label", encode l.label)]) {} : Decoded (Parts α))
      match parts.value, parts.label with
      | some value, some label => return ⟨value, label⟩
      | _, _ => throw .unreadable : Decoded (ValueLabel α)) := rfl

lemma decode_eq_ok (h : decode source (encode l.value) = .ok l.value) :
    decode source (encode l) = .ok l := by
  rw [decode_encode, readMembersOf_ok ⟨some l.value, none⟩ rfl (by decide) (by simp [h]),
    readMembersOf_ok ⟨some l.value, some l.label⟩ rfl (by decide) rfl]
  rfl

lemma decode_eq_error (h : decode source (encode l.value) = (.error e : Decoded α)) :
    decode source (encode l) = (.error e : Decoded (ValueLabel α)) := by
  rw [decode_encode, readMembersOf_error (e := e) rfl (by decide) (by simp [h])]
  rfl

end ValueLabel

namespace Labels

variable {l m : Labels α}

section Extend

variable {k : String} {a : α} {es : List (String × α)}

lemma containsValue_eq_false (h : m.byLabel.entries = l.byLabel.entries ++ (k, a) :: es) :
    l.containsValue a = false := by
  have hdistinct := m.distinct
  rw [OrderedMap.values, h, List.map_append, Distinct, List.pairwise_append] at hdistinct
  apply List.any_eq_false.mpr
  intro b hb
  rw [hdistinct.2.2 b hb a List.mem_cons_self]
  exact Bool.false_ne_true

variable [Legible α]

lemma run_addAll (h : m.byLabel.entries = l.byLabel.entries ++ es) :
    (addAll (ofEntries es)).run l = .ok () m := by
  induction es generalizing l with
  | nil =>
    rw [List.append_nil] at h
    rw [eq_of_entries h]
    rfl
  | cons entry es ih =>
    obtain ⟨k, a⟩ := entry
    have hvalue := containsValue_eq_false h
    have hlabel := OrderedMap.not_mem_of_entries h
    have hadd := run_add_of_new hvalue hlabel
    change (add a k >>= fun _ => addAll (ofEntries es)).run l = .ok () m
    rw [EStateM.run_bind, hadd]
    apply ih
    rw [h]
    exact (List.append_assoc l.byLabel.entries [(k, a)] es).symm

end Extend

lemma value_mem_values {entry : ValueLabel α} (h : entry ∈ l.toList) :
    entry.value ∈ l.byLabel.values := by
  obtain ⟨⟨k, a⟩, hmem, rfl⟩ := List.mem_map.mp h
  exact List.mem_map_of_mem hmem

variable [Legible α] [Codec α]

lemma canonical_encode (h : ∀ a ∈ l.byLabel.values, (encode a).Canonical) :
    (encode l).Canonical := by
  change (encode l.toList).Canonical
  apply canonical_list
  intro entry hentry
  exact ValueLabel.canonical_encode (h entry.value (value_mem_values hentry))

lemma buffers_encode (h : ∀ a ∈ l.byLabel.values, buffers depth (encode a)) :
    buffers (depth + 2) (encode l) := by
  change buffers (depth + 1 + 1) (encode l.toList) = true
  apply buffers_list
  intro entry hentry
  exact ValueLabel.buffers_encode (h entry.value (value_mem_values hentry))

lemma decode_eq_ok (h : ∀ a ∈ l.byLabel.values, decode source (encode a) = .ok a) :
    decode source (encode l) = .ok l := by
  have hlist : decode source (encode l.toList) = .ok l.toList := by
    apply decode_list
    intro entry hentry
    exact ValueLabel.decode_eq_ok (h entry.value (value_mem_values hentry))
  have hrun : (addAll l.toList).run empty = .ok () l := run_addAll (List.nil_append _).symm
  have hlabels : ofList l.toList = .ok l := by rw [ofList, hrun]
  change (decode source (encode l.toList) >>= fun ls => Json.accept (ofList ls)) = .ok l
  rw [hlist]
  exact accept_eq_ok_iff.mpr hlabels

lemma decode_eq_error (hne : l.byLabel.entries ≠ [])
    (h : ∀ a : α, decode source (encode a) = (.error e : Decoded α)) :
    decode source (encode l) = (.error e : Decoded (Labels α)) := by
  have hlist : decode source (encode l.toList) = (.error e : Decoded (List (ValueLabel α))) :=
    decode_list_error (by simpa [toList] using hne) fun entry =>
      ValueLabel.decode_eq_error (h entry.value)
  change (decode source (encode l.toList) >>= fun ls => Json.accept (ofList ls)) = .error e
  rw [hlist]
  rfl

end Labels

namespace DataVector

variable {v : DataVector α}

def values (v : DataVector α) : List α :=
  v.data ++ (v.categories.map CategorySet.members).getD [] ++ v.labels.byLabel.values

lemma forall_mem_values {P : α → Prop} (h : ∀ a ∈ v.values, P a) :
    (∀ a ∈ v.data, P a) ∧ (∀ s, v.categories = some s → ∀ a ∈ s.members, P a) ∧
      ∀ a ∈ v.labels.byLabel.values, P a := by
  rw [values, List.forall_mem_append, List.forall_mem_append] at h
  obtain ⟨⟨hdata, hcategories⟩, hlabels⟩ := h
  refine ⟨hdata, ?_, hlabels⟩
  intro s hs
  rwa [hs] at hcategories

lemma eq_empty_of_isEmpty (h : v.labels.isEmpty) : v.labels = ∅ :=
  Labels.eq_of_entries (List.isEmpty_iff.mp h)

lemma first_part_of_values (hne : v.values ≠ []) :
    v.data ≠ [] ∨
    v.data = [] ∧ (∃ s, v.categories = some s ∧ s.members ≠ []) ∨
    v.data = [] ∧ (∀ s, v.categories = some s → s.members = []) ∧
    v.labels.byLabel.entries ≠ [] := by
  by_cases hdata : v.data = []
  · by_cases hcategories : ∃ s, v.categories = some s ∧ s.members ≠ []
    · exact .inr (.inl ⟨hdata, hcategories⟩)
    · have hmembers : ∀ s, v.categories = some s → s.members = [] := by
        intro s hs
        by_contra hmembers
        exact hcategories ⟨s, hs, hmembers⟩
      refine .inr (.inr ⟨hdata, hmembers, fun hlabels => hne ?_⟩)
      rw [values, hdata, OrderedMap.values, hlabels]
      cases hs : v.categories with
      | none => rfl
      | some s => simp [hmembers s hs]
  · exact .inl hdata

variable [Legible α] [Codec α]

def categoryMembers (v : DataVector α) : List (String × Json) :=
  match v.categories with
  | none => []
  | some s => [("categories", encode s)]

def labelMembers (v : DataVector α) : List (String × Json) :=
  if v.labels.isEmpty then [] else [("labels", encode v.labels)]

lemma members_eq (v : DataVector α) :
    v.members = ("data", encode v.data) :: (v.categoryMembers ++ v.labelMembers) := rfl

section Reading

lemma readMembersOf_fields_nil (seen : List String) (p : Parts α) :
    readMembersOf source true fields seen (named []) p = .ok p := by
  apply readMembersOf_nil
  intro f hf _
  simp only [fields, List.mem_cons, List.not_mem_nil, or_false] at hf
  rcases hf with rfl | rfl | rfl
  · rfl
  · rfl
  · rfl

lemma read_data (rest : List (String × Json)) (h : ∀ a ∈ v.data, decode source (encode a) = .ok a) :
    readMembersOf source true fields [] (named (("data", encode v.data) :: rest)) {} =
      readMembersOf source true fields ["data"] (named rest)
        ({ data := some v.data } : Parts α) := by
  have hread : decodeOption (decode source) (encode v.data) = .ok (some v.data) :=
    decodeOption_eq_ok (decode_list h)
  exact readMembersOf_ok _ rfl (by decide) (by simp [hread])

lemma read_categories (rest : List (String × Json))
    (h : ∀ s, v.categories = some s → decode source (encode s) = .ok s) :
    ∃ seen : List String, "labels" ∉ seen ∧
      readMembersOf source true fields ["data"] (named (v.categoryMembers ++ rest))
          { data := some v.data } =
        readMembersOf source true fields seen (named rest)
          { data := some v.data, categories := v.categories } := by
  rw [categoryMembers]
  cases hcategories : v.categories with
  | none => exact ⟨["data"], by decide, rfl⟩
  | some s =>
    have hread : decodeOption (decode source) (encode s) = .ok (some s) :=
      decodeOption_eq_ok (h s hcategories)
    exact ⟨["categories", "data"], by decide, readMembersOf_ok _ rfl (by decide) (by simp [hread])⟩

lemma read_labels {seen : List String} (hseen : "labels" ∉ seen)
    (h : decode source (encode v.labels) = .ok v.labels) :
    ∃ labels : Option (Labels α), labels.getD ∅ = v.labels ∧
      readMembersOf source true fields seen (named v.labelMembers)
        { data := some v.data, categories := v.categories } =
          .ok ⟨some v.data, v.categories, labels⟩ := by
  rw [labelMembers]
  by_cases hempty : v.labels.isEmpty
  · refine ⟨none, (eq_empty_of_isEmpty hempty).symm, ?_⟩
    rw [if_pos hempty, readMembersOf_fields_nil]
  · have hread : decodeOption (decode source) (encode v.labels) = .ok (some v.labels) :=
      decodeOption_eq_ok h
    refine ⟨some v.labels, rfl, ?_⟩
    rw [if_neg hempty,
      readMembersOf_ok ⟨some v.data, v.categories, some v.labels⟩ rfl hseen (by simp [hread]),
      readMembersOf_fields_nil]

lemma decode_members : decode source (.ofMembers v.members) =
    (do
      let parts ← (readMembersOf source true fields []
        (named (("data", encode v.data) :: (v.categoryMembers ++ v.labelMembers))) {} :
          Decoded (Parts α))
      Json.accept (ofParts parts) : Decoded (DataVector α)) := rfl

lemma decode_members_eq_ok (h : ∀ a ∈ v.values, decode source (encode a) = .ok a) :
    decode source (.ofMembers v.members) = .ok v := by
  obtain ⟨hdata, hcategories, hlabels⟩ := forall_mem_values h
  obtain ⟨seen, hseen, hread⟩ := read_categories v.labelMembers fun s hs =>
    CategorySet.decode_eq_ok (hcategories s hs)
  obtain ⟨labels, hlabels, hparts⟩ := read_labels hseen (Labels.decode_eq_ok hlabels)
  rw [decode_members, read_data _ hdata, hread, hparts]
  change Except.ok ⟨v.data, v.categories, labels.getD ∅⟩ = Except.ok v
  rw [hlabels]

lemma decode_members_eq_error (hne : v.values ≠ [])
    (h : ∀ a : α, decode source (encode a) = (.error e : Decoded α)) :
    decode source (.ofMembers v.members) = (.error e : Decoded (DataVector α)) := by
  rw [decode_members]
  rcases first_part_of_values hne with hdata | ⟨hdata, s, hs, hmembers⟩ | ⟨hdata, hmembers, hlabels⟩
  · have hread : decodeOption (decode source) (encode v.data) =
        (.error e : Decoded (Option (List α))) :=
      decodeOption_eq_error (decode_list_error hdata h)
    rw [readMembersOf_error (e := e) rfl (by decide) (by simp [hread])]
    rfl
  · have hread : decodeOption (decode source) (encode s) =
        (.error e : Decoded (Option (CategorySet α))) :=
      decodeOption_eq_error (CategorySet.decode_eq_error hmembers h)
    have hfirst : v.categoryMembers ++ v.labelMembers =
        ("categories", encode s) :: v.labelMembers := by
      simp [categoryMembers, hs]
    rw [read_data _ (by simp [hdata]), hfirst,
      readMembersOf_error (e := e) rfl (by decide) (by simp [hread])]
    rfl
  · have hempty : ∀ s, v.categories = some s → decode source (encode s) = .ok s := by
      intro s hs
      apply CategorySet.decode_eq_ok
      simp [hmembers s hs]
    obtain ⟨seen, hseen, hcategories⟩ := read_categories v.labelMembers hempty
    have hread : decodeOption (decode source) (encode v.labels) =
        (.error e : Decoded (Option (Labels α))) :=
      decodeOption_eq_error (Labels.decode_eq_error hlabels h)
    have hfirst : v.labelMembers = [("labels", encode v.labels)] := by
      simpa [labelMembers, Labels.isEmpty, OrderedMap.isEmpty] using hlabels
    rw [read_data _ (by simp [hdata]), hcategories, hfirst,
      readMembersOf_error (e := e) rfl hseen (by simp [hread])]
    rfl

end Reading

lemma forall_members {P : String × Json → Prop} (hdata : P ("data", encode v.data))
    (hcategories : ∀ s, v.categories = some s → P ("categories", encode s))
    (hlabels : P ("labels", encode v.labels)) : ∀ m ∈ v.members, P m := by
  rw [members_eq, List.forall_mem_cons, List.forall_mem_append]
  refine ⟨hdata, ?_, ?_⟩
  · rw [categoryMembers]
    cases hs : v.categories with
    | none => exact List.forall_mem_nil _
    | some s => exact List.forall_mem_singleton.mpr (hcategories s hs)
  · rw [labelMembers]
    split
    case isTrue => exact List.forall_mem_nil _
    case isFalse => exact List.forall_mem_singleton.mpr hlabels

lemma name_ne_of_mem_members {k : String} (hk : k ∉ ["data", "categories", "labels"]) :
    ∀ m ∈ v.members, m.1 ≠ k := by
  simp only [List.mem_cons, List.not_mem_nil, or_false, not_or] at hk
  obtain ⟨hdata, hcategories, hlabels⟩ := hk
  exact forall_members (Ne.symm hdata) (fun _ _ => Ne.symm hcategories) (Ne.symm hlabels)

lemma canonical_members (h : ∀ a ∈ v.values, (encode a).Canonical) :
    ∀ m ∈ v.members, m.2.Canonical := by
  obtain ⟨hdata, hcategories, hlabels⟩ := forall_mem_values h
  apply forall_members
  · exact canonical_list hdata
  · intro s hs
    exact canonical_list (hcategories s hs)
  · exact Labels.canonical_encode hlabels

lemma buffers_members (h : ∀ a ∈ v.values, ∀ depth, buffers depth (encode a)) :
    ∀ m ∈ v.members, buffers (depth + 2) m.2 := by
  obtain ⟨hdata, hcategories, hlabels⟩ := forall_mem_values h
  apply forall_members
  · exact buffers_list fun a ha => hdata a ha (depth + 1)
  · intro s hs
    exact buffers_list fun a ha => hcategories s hs a ha (depth + 1)
  · exact Labels.buffers_encode fun a ha => hlabels a ha depth

end DataVector

end Columnar
