import Columnar.Proofs.Annotated.RoundTrip
import Columnar.Proofs.Grid.RoundTrip

namespace Columnar

open Codec Json

namespace ElementType

variable {t : ElementType} (ht : t.isFloating = false)

include ht

lemma vector_read_back (v : DataVector t.Carrier) : ofText (toText v) = .ok v := by
  have hcanonical : (encode v).Canonical :=
    .object (DataVector.canonical_members fun a _ => canonical_carrier ht a)
  rw [ofText_toText hcanonical]
  exact DataVector.decode_members_eq_ok fun a _ => decode_carrier ht a

lemma categories_read_back (s : CategorySet t.Carrier) : ofText (toText s) = .ok s := by
  have hcanonical : (encode s).Canonical := canonical_list fun a _ => canonical_carrier ht a
  rw [ofText_toText hcanonical]
  exact CategorySet.decode_eq_ok fun a _ => decode_carrier ht a

lemma frozen_read_back (z : FrozenCategorySet t.Carrier) : ofText (toText z) = .ok z := by
  have hcanonical : (encode z).Canonical := canonical_list fun a _ => canonical_carrier ht a
  have hset : decode .direct (encode z.set) = .ok z.set :=
    CategorySet.decode_eq_ok fun a _ => decode_carrier ht a
  rw [ofText_toText hcanonical]
  change (decode .direct (encode z.set)).map CategorySet.freeze = .ok z
  rw [hset]
  rfl

lemma labels_read_back (l : Labels t.Carrier) : ofText (toText l) = .ok l := by
  rw [ofText_toText (Labels.canonical_encode fun a _ => canonical_carrier ht a)]
  exact Labels.decode_eq_ok fun a _ => decode_carrier ht a

lemma array_read_back {v : Strided t.Carrier} (hv : v.WellFormed)
    (hshape : ∀ n ∈ v.shape, n < Shape.wordSize) :
    ofText (toText v) = .ok v := by
  rw [ofText_toText (Strided.canonical_encode fun a _ => canonical_carrier ht a)]
  exact Strided.decode_eq_ok hv hshape fun a _ => decode_carrier ht a

end ElementType

theorem containers_read_back {t : ElementType} (ht : t.isFloating = false)
    (v : DataVector t.Carrier)
    (s : CategorySet t.Carrier) (z : FrozenCategorySet t.Carrier) (l : Labels t.Carrier)
    {made a : Strided t.Carrier} {writes : List (Strided.Write t.Carrier)}
    (hmade : Strided.Made made)
    (ha : made.afterWrites writes = a) (hshape : ∀ n ∈ a.shape, n < Shape.wordSize) :
    ofText (toText v) = .ok v ∧ ofText (toText s) = .ok s ∧ ofText (toText z) = .ok z ∧
      ofText (toText l) = .ok l ∧ ofText (toText a) = .ok a := by
  have hwell : a.WellFormed :=
    ha ▸ (Strided.sameForm_afterWrites made writes).wellFormed hmade.wellFormed
  exact ⟨ElementType.vector_read_back ht v, ElementType.categories_read_back ht s,
    ElementType.frozen_read_back ht z, ElementType.labels_read_back ht l,
    ElementType.array_read_back ht hwell hshape⟩

theorem containers_read_back_missing :
    ∃ (v : DataVector (Marked .least (Fixed .int128)))
      (s : CategorySet (Marked .least (Fixed .int128)))
      (l : Labels (Marked .least (Fixed .int128))) (a : Strided (Marked .least (Fixed .int128))),
      s.members = [.missing, .missing] ∧
      Labels.ofList [⟨.missing, "x"⟩, ⟨.missing, "y"⟩] = .ok l ∧
      v = ⟨[⟨Fixed.one⟩, .missing], some s, l⟩ ∧
      Strided.withLayout [] [2, 0, 3] .columnMajor = .ok a ∧
      ofText (toText v) = .ok v ∧ ofText (toText s) = .ok s ∧ ofText (toText l) = .ok l ∧
      ofText (toText a) = .ok a := by
  let t : ElementType := .marked .least (.integer .int128)
  let s : CategorySet t.Carrier := .ofList [Marked.missing, Marked.missing]
  obtain ⟨l, hl⟩ : ∃ l : Labels t.Carrier,
      Labels.ofList [⟨Marked.missing, "x"⟩, ⟨Marked.missing, "y"⟩] = .ok l :=
    ⟨_, rfl⟩
  obtain ⟨a, ha⟩ : ∃ a : Strided t.Carrier, Strided.withLayout [] [2, 0, 3] .columnMajor = .ok a :=
    ⟨_, rfl⟩
  let v : DataVector t.Carrier := ⟨[⟨Fixed.one⟩, Marked.missing], some s, l⟩
  have hshape : ∀ n ∈ a.shape, n < Shape.wordSize := by
    cases ha
    decide
  have hmade {t : ElementType} {a : Strided t.Carrier}
      (ha : Strided.withLayout [] [2, 0, 3] .columnMajor = .ok a) : Strided.Made a := .withLayout ha
  obtain ⟨hv, hs, -, hlabels, harray⟩ := containers_read_back (t := t) rfl v s s.freeze l
    (hmade ha) (Eq.refl (a.afterWrites [])) hshape
  exact ⟨v, s, l, a, rfl, hl, rfl, ha, hv, hs, hlabels, harray⟩

end Columnar
