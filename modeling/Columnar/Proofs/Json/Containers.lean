import Columnar.Json.Codec
import Columnar.Proofs.Json.Text
import Columnar.Proofs.Result

namespace Columnar

namespace Json

variable {depth : Nat} {members : List (String × Json)}

lemma buffersItems_of_forall {items : List Json} (h : ∀ v ∈ items, buffers depth v) :
    buffersItems depth items := by
  induction items with
  | nil => rfl
  | cons v vs ih =>
    obtain ⟨hv, hvs⟩ := List.forall_mem_cons.mp h
    rw [buffersItems, hv, ih hvs]
    rfl

lemma buffersMembers_of_forall (h : ∀ m ∈ members, buffers depth m.2) :
    buffersMembers depth (named members) := by
  induction members with
  | nil => rfl
  | cons m ms ih =>
    obtain ⟨hm, hms⟩ := List.forall_mem_cons.mp h
    rw [named_cons, buffersMembers, hm, ih hms]
    rfl

lemma buffers_ofList {items : List Json} (h : ∀ v ∈ items, buffers depth v) :
    buffers (depth + 1) (.ofList items) := by
  change (decide (0 < depth + 1) && true && buffersItems depth items) = true
  simp [buffersItems_of_forall h]

lemma buffers_ofMembers (h : ∀ m ∈ members, buffers depth m.2) :
    buffers (depth + 1) (.ofMembers members) := by
  change (decide (0 < depth + 1) && true && buffersMembers depth (named members)) = true
  simp [buffersMembers_of_forall h]

section Arrays

variable {β : Type} {decode : Json → Decoded β} {encode : β → Json} {bs : List β}

lemma decodeItems_map (h : ∀ b ∈ bs, decode (encode b) = .ok b) :
    decodeItems decode (bs.map encode) = .ok bs := by
  induction bs with
  | nil => rfl
  | cons b bs ih =>
    obtain ⟨hb, hbs⟩ := List.forall_mem_cons.mp h
    rw [List.map_cons, decodeItems, hb, ih hbs]
    rfl

lemma decodeList_map (h : ∀ b ∈ bs, decode (encode b) = .ok b) :
    decodeList decode (.ofList (bs.map encode)) = .ok bs := by
  change (decodeItems decode (bs.map encode) >>= fun bs => pure bs) = .ok bs
  rw [decodeItems_map h]
  rfl

end Arrays

section Options

variable {β : Type} {decode : Json → Decoded β} {items : List Json}

lemma decodeOption_eq_ok {b : β} (h : decode (.ofList items) = .ok b) :
    decodeOption decode (.ofList items) = .ok (some b) := by
  change (decode (.ofList items)).map some = .ok (some b)
  rw [h]
  rfl

lemma decodeOption_eq_error {e : Fault} (h : decode (.ofList items) = .error e) :
    decodeOption decode (.ofList items) = .error e := by
  change (decode (.ofList items)).map some = .error e
  rw [h]
  rfl

end Options

section Records

variable {σ : Type} {source : Source} {fields : List (RecordField σ)} {field : RecordField σ}
  {seen : List String} {rest : List (String × Json)} {name : String} {v : Json}
  {acc : σ} {e : Fault}

lemma readMembersOf_cons (hfind : fields.find? (fun f => f.name = name) = some field)
    (hnew : name ∉ seen) :
    readMembersOf source true fields seen (named ((name, v) :: rest)) acc =
      (field.read source v acc >>= readMembersOf source true fields (name :: seen)
        (named rest)) := by
  rw [named_cons, readMembersOf]
  simp only [beq_eq_decide, hfind, List.contains_eq_mem, hnew]
  rfl

lemma readMembersOf_ok (next : σ) (hfind : fields.find? (fun f => f.name = name) = some field)
    (hnew : name ∉ seen) (hread : field.read source v acc = .ok next) :
    readMembersOf source true fields seen (named ((name, v) :: rest)) acc =
      readMembersOf source true fields (name :: seen) (named rest) next := by
  rw [readMembersOf_cons hfind hnew, hread]
  rfl

lemma readMembersOf_error (hfind : fields.find? (fun f => f.name = name) = some field)
    (hnew : name ∉ seen) (hread : field.read source v acc = .error e) :
    readMembersOf source true fields seen (named ((name, v) :: rest)) acc = .error e := by
  rw [readMembersOf_cons hfind hnew, hread]
  rfl

lemma foldlM_absent (h : ∀ f ∈ fields, f.absent acc = .ok acc) :
    fields.foldlM (fun acc f => f.absent acc) acc = .ok acc := by
  induction fields with
  | nil => rfl
  | cons f fs ih =>
    obtain ⟨hf, hfs⟩ := List.forall_mem_cons.mp h
    rw [List.foldlM_cons, hf]
    exact ih hfs

lemma readMembersOf_nil (h : ∀ f ∈ fields, f.name ∉ seen → f.absent acc = .ok acc) :
    readMembersOf source true fields seen (named []) acc = .ok acc := by
  change readMembersOf source true fields seen [] acc = .ok acc
  rw [readMembersOf, if_pos rfl]
  apply foldlM_absent
  intro f hf
  obtain ⟨hmem, hseen⟩ := List.mem_filter.mp hf
  exact h f hmem (by simpa using hseen)

end Records

end Json

open Json

variable {α : Type} [Codec α] {source : Source} {as : List α}

lemma Codec.ofText_of_clean {s : String} (h : (read s.toList).2 = true) :
    ofText s = (decode .direct (read s.toList).1 : Decoded α) := by
  change (decode .direct (read s.toList).1 >>= fun a =>
    if (read s.toList).2 then pure a else throw Fault.unreadable : Decoded α) = _
  rw [h]
  exact bind_pure _

lemma Codec.ofText_eq_ok_iff {s : String} {a : α} :
    ofText s = .ok a ↔ decode .direct (read s.toList).1 = .ok a ∧ (read s.toList).2 = true := by
  constructor
  · rw [ofText, bind_eq_ok]
    rintro ⟨b, hb, hclean⟩
    split at hclean
    case isTrue h =>
      cases hclean
      exact ⟨hb, h⟩
    case isFalse => cases hclean
  · rintro ⟨ha, h⟩
    rw [ofText_of_clean h, ha]

lemma Codec.ofText_toText_of_readable {a : α} (h : Readable (encode a)) :
    ofText (toText a) = (decode .direct (encode a) : Decoded α) := by
  have hread := h.read_text
  rw [ofText_of_clean, toText, hread]
  rw [toText, hread]

lemma Codec.ofText_toText {a : α} (h : (encode a).Canonical) :
    ofText (toText a) = (decode .direct (encode a) : Decoded α) :=
  ofText_toText_of_readable h.readable

lemma canonical_list (h : ∀ a ∈ as, (encode a).Canonical) : (encode as).Canonical := by
  apply Canonical.array
  intro v hv
  obtain ⟨a, ha, rfl⟩ := List.mem_map.mp hv
  exact h a ha

lemma buffers_list {depth : Nat} (h : ∀ a ∈ as, buffers depth (encode a)) :
    buffers (depth + 1) (encode as) := by
  apply buffers_ofList
  intro v hv
  obtain ⟨a, ha, rfl⟩ := List.mem_map.mp hv
  exact h a ha

lemma decode_list (h : ∀ a ∈ as, decode source (encode a) = .ok a) :
    decode source (encode as) = .ok as :=
  decodeList_map h

lemma decode_list_error {e : Fault} (hne : as ≠ [])
    (h : ∀ a : α, decode source (encode a) = (.error e : Decoded α)) :
    decode source (encode as) = (.error e : Decoded (List α)) := by
  cases as with
  | nil => exact absurd rfl hne
  | cons a as =>
    change (decodeItems (decode source) (encode a :: as.map encode) >>= fun as => pure as) =
      .error e
    rw [decodeItems, h]
    rfl

end Columnar
