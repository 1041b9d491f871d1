import Columnar.Proofs.Grid.Writes
import Columnar.Proofs.Json.Containers
import Columnar.Proofs.Json.Scalars

namespace Columnar.Strided

open Json Shape

variable {α : Type} {v : Strided α} {source : Source} {shape : List Nat} {n : Nat}

def encodeShape (shape : List Nat) : Json := .ofList (shape.map fun (n : Nat) => .ofInt n)

def encodeParts (shape : List Nat) (layout data : Json) : Json :=
  .ofMembers [("shape", encodeShape shape), ("layout", layout), ("data", data)]

lemma fits_word (h : n < wordSize) : IntegerType.uint64.Fits n := by
  have hlt : (n : Int) < (wordSize : Nat) := Int.ofNat_lt.mpr h
  refine ⟨Int.natCast_nonneg n, ?_⟩
  change (n : Int) ≤ 0 + (wordSize : Nat) - 1
  omega

lemma decodeSize_ofInt (h : n < wordSize) : decodeSize source (.ofInt n) = .ok n := by
  have hfront : Fixed.front? .uint64 source (.ofInt n) = some (⟨n, fits_word h⟩, true) :=
    front?_ofInt (.inr (by decide)) ⟨n, fits_word h⟩
  rw [decodeSize, Fixed.decode?, hfront]
  simp [orUnreadable]

lemma decode_shape (h : ∀ n ∈ shape, n < wordSize) :
    decodeList (decodeSize source) (encodeShape shape) = .ok shape :=
  decodeList_map fun n hn => decodeSize_ofInt (h n hn)

lemma decode_layout (l : Layout) : decode source (encode l) = .ok l := by
  cases l <;> rfl

lemma canonical_layout (l : Layout) : (encode l).Canonical := .string l.name

lemma WellFormed.withLayout_eq_ok (h : v.WellFormed) :
    withLayout v.data v.shape v.layout = .ok v := by
  refine withLayout_eq_ok_iff.mpr ⟨h.count, ?_⟩
  rw [ofParts, ← h.strides]

variable [Codec α]

lemma decode_encodeParts {layout data : Json} : decode source (encodeParts shape layout data) =
    (do
      let parts ← (readMembersOf source true fields [] (named
        [("shape", encodeShape shape), ("layout", layout), ("data", data)]) {} : Decoded (Parts α))
      match parts.shape, parts.data with
      | some shape, some data => Json.accept (withLayout data shape parts.layout)
      | _, _ => throw .unreadable : Decoded (Strided α)) := rfl

lemma encode_eq (v : Strided α) :
    encode v = encodeParts v.shape (encode v.layout) (encode v.data) := rfl

lemma canonical_encode (h : ∀ a ∈ v.data, (encode a).Canonical) : (encode v).Canonical := by
  apply Canonical.object
  rw [List.forall_mem_cons, List.forall_mem_cons, List.forall_mem_singleton]
  refine ⟨.array fun n hn => ?_, canonical_layout v.layout, canonical_list h⟩
  obtain ⟨n, -, rfl⟩ := List.mem_map.mp hn
  exact .number n

lemma decode_eq_ok (hv : v.WellFormed) (hshape : ∀ n ∈ v.shape, n < wordSize)
    (h : ∀ a ∈ v.data, decode source (encode a) = .ok a) : decode source (encode v) = .ok v := by
  rw [encode_eq, decode_encodeParts,
    readMembersOf_ok { shape := some v.shape } rfl (by decide) (by simp [decode_shape hshape]),
    readMembersOf_ok { shape := some v.shape, layout := v.layout } rfl (by decide)
      (by simp [decode_layout]),
    readMembersOf_ok { shape := some v.shape, layout := v.layout, data := some v.data }
      rfl (by decide) (by simp [decode_list h])]
  exact accept_eq_ok_iff.mpr hv.withLayout_eq_ok

end Columnar.Strided
