import Columnar.Proofs.Json.Containers
import Columnar.Proofs.Json.Finite
import Columnar.Proofs.Json.Scalars
import Columnar.Proofs.Missing.Sentinel

/-! Null stands for a missing value, but also for the numbers that JSON does not have. Any other
number is read back as present; only the least of 64 bits is read as the sentinel next to it. -/

namespace Columnar

open Codec Json

def Number.IsFinite {α : Type} [Number α] (a : α) : Prop :=
  ∃ negative n e, exact a = .finite negative n e

namespace Json

lemma text_ne_null {n : Numeral} (h : IsNumeral n) : (ofNumeral n).text ≠ "null" := by
  obtain ⟨c, cs, htext, hc⟩ := exists_text_cons h
  intro hnull
  have hlist : c :: cs = "null".toList := by
    rw [← htext, ← hnull, text, String.toList_ofList]
    rfl
  cases hlist
  exact absurd hc (by decide)

lemma encode_floating {α : Type} [Floating α] (a : α) :
    (Number.IsFinite a ∧ ∃ n, IsNumeral n ∧ encode a = .ofNumeral n) ∨
      (¬ Number.IsFinite a ∧ encode a = .null) := by
  change (Number.IsFinite a ∧ ∃ n, IsNumeral n ∧ Floating.encode a = .ofNumeral n) ∨
    (¬ Number.IsFinite a ∧ Floating.encode a = .null)
  rw [Floating.encode]
  cases h : Floating.exact a with
  | nan =>
    refine .inr ⟨?_, rfl⟩
    rintro ⟨negative, n, e, hfinite⟩
    cases h.symm.trans hfinite
  | infinite s =>
    refine .inr ⟨?_, rfl⟩
    rintro ⟨negative, n, e, hfinite⟩
    cases h.symm.trans hfinite
  | finite negative n e =>
    exact .inl ⟨⟨negative, n, e, h⟩, _, (Floating.exists_shape α negative n e).1, rfl⟩

end Json

namespace Marked

variable {m : Marker} {t : NumberType} {source : Source} {v : Json}

lemma encode_number (a : t.Carrier) :
    (Number.IsFinite a ∧ ∃ n, IsNumeral n ∧ encode a = .ofNumeral n) ∨
      (¬ Number.IsFinite a ∧ encode a = .null) := by
  cases t with
  | integer k => exact .inl ⟨⟨_, _, _, rfl⟩, .ofInt a.val, isNumeral_ofInt _, rfl⟩
  | binary32 => exact encode_floating (α := Float32) a
  | binary64 => exact encode_floating (α := Float) a

lemma encode_cases (x : Marked m t.Carrier) :
    (encode x = .null ∧ (x.isMissing ∨ ¬ Number.IsFinite x.raw)) ∨
      (¬ (x.isMissing ∨ ¬ Number.IsFinite x.raw) ∧ ∃ n, IsNumeral n ∧ encode x = .ofNumeral n) := by
  by_cases hx : x.isMissing
  · exact .inl ⟨encode_missing x hx, .inl hx⟩
  · rw [encode_present x hx]
    rcases encode_number x.raw with ⟨hfinite, hn⟩ | ⟨hfinite, hnull⟩
    · exact .inr ⟨not_or.mpr ⟨hx, not_not.mpr hfinite⟩, hn⟩
    · exact .inl ⟨hnull, .inr hfinite⟩

lemma toText_eq_null_iff (x : Marked m t.Carrier) :
    toText x = "null" ↔ x.isMissing ∨ ¬ Number.IsFinite x.raw := by
  rcases encode_cases x with ⟨hnull, hx⟩ | ⟨hx, n, hn, hnumeral⟩
  · rw [toText, hnull]
    exact iff_of_true rfl hx
  · rw [toText, hnumeral]
    exact iff_of_false (text_ne_null hn) hx

lemma readable_encode (x : Marked m t.Carrier) : Readable (encode x) := by
  rcases encode_cases x with ⟨hnull, -⟩ | ⟨-, n, hn, hnumeral⟩
  · rw [hnull]
    exact readable_null
  · rw [hnumeral]
    exact readable_numeral hn

lemma accept_ofValue (m : Marker) (a : t.Carrier) : accept (ofValue m a) =
    if isSentinel m a then .error (.refused (.sentinelCollision "value" (Legible.display a)))
    else .ok ⟨a⟩ := by
  rw [ofValue]
  split
  · rfl
  · rfl

lemma decode_of_ne_null (hv : v ≠ .null) : (decode source v : Decoded (Marked m t.Carrier)) = (do
    let (a, ends) ← (decodeFront source v : Decoded (t.Carrier × Bool))
    let x ← Json.accept (ofValue m a)
    if ends then return x else throw Fault.unreadable) := by
  cases v with
  | null => exact absurd rfl hv
  | _ => rfl

lemma isMissing_iff_null (h : m.Suits t) {y : Marked m t.Carrier} (hy : decode source v = .ok y) :
    y.isMissing ↔ v = .null := by
  by_cases hv : v = .null
  · subst hv
    cases hy
    exact iff_of_true (isMissing_missing h) rfl
  · refine iff_of_false ?_ hv
    rw [decode_of_ne_null hv, bind_eq_ok] at hy
    obtain ⟨⟨a, ends⟩, -, hy⟩ := hy
    rw [bind_eq_ok] at hy
    obtain ⟨z, hz, hy⟩ := hy
    rw [accept_ofValue] at hz
    split at hz
    case isTrue => cases hz
    case isFalse hpresent =>
      cases hz
      cases ends with
      | true =>
        cases hy
        exact hpresent
      | false => cases hy

lemma decode_null (t : NumberType) (source : Source) :
    (decode source .null : Decoded t.Carrier) = .error .unreadable := by
  cases t with
  | integer k => rfl
  | binary32 | binary64 => rfl

lemma decodeFront_eq_ok {a : t.Carrier} (h : decode source v = .ok a) :
    decodeFront source v = .ok (a, true) := by
  cases t with
  | integer k =>
    change orUnreadable (Fixed.decode? k source v) = .ok a at h
    change orUnreadable (Fixed.front? k source v) = .ok (a, true)
    rw [Fixed.decode?] at h
    split at h
    case h_1 hfront =>
      cases h
      rw [hfront]
      rfl
    case h_2 => cases h
  | binary32 | binary64 =>
    change (decode source v).map (·, true) = .ok (a, true)
    rw [h]
    rfl

lemma decode_eq (m : Marker) {a : t.Carrier} (h : decode source v = .ok a) :
    decode source v =
      if isSentinel m a then .error (.refused (.sentinelCollision "value" (Legible.display a)))
      else .ok (⟨a⟩ : Marked m t.Carrier) := by
  have hv : v ≠ .null := by
    rintro rfl
    rw [decode_null] at h
    cases h
  rw [decode_of_ne_null hv, decodeFront_eq_ok h, ← accept_ofValue]
  change (accept (ofValue m a) >>= fun x => pure x : Decoded (Marked m t.Carrier)) =
    accept (ofValue m a)
  exact bind_pure _

def NextToSentinel (x : Marked m t.Carrier) : Prop :=
  m = .least ∧ t = .binary64 ∧ Number.exact x.raw = Number.exact (least m t.Carrier).raw

lemma exact_next : Floating.exact (least .least Float).raw = .finite true (2 ^ 53 - 2) 971 := by
  decide +kernel

lemma nextToSentinel_iff {x : Marked .least Float} (hx : ¬ x.isMissing) {negative : Bool}
    {n : ℕ} {e : ℤ} (h : Floating.exact x.raw = .finite negative n e) :
    NextToSentinel (t := .binary64) x ↔ negative ∧ Floating.IsTop .binary64 2 n e := by
  constructor
  · rintro ⟨-, -, hexact⟩
    cases h.symm.trans (hexact.trans exact_next)
    exact ⟨rfl, rfl, by decide⟩
  · rintro ⟨rfl, rfl, hn⟩
    have hlt : n < 2 ^ 53 := (Floating.canonical_exact h).1.lt
    have hn' : 2 ^ 53 ≤ n + 2 := hn
    have hne : n ≠ 2 ^ 53 - 1 := by
      rintro rfl
      exact hx (Floating.beq_least Floating.Reread.exact_least h ⟨rfl, by decide⟩)
    obtain rfl : n = 2 ^ 53 - 2 := by omega
    exact ⟨rfl, rfl, h.trans exact_next.symm⟩

lemma decode_floating {α : Type} [Floating α] {a y : α} {negative : Bool} {n : ℕ} {e : ℤ}
    (h : Floating.exact a = .finite negative n e)
    (hy : Floating.decode? (.ofNumeral (Floating.numeral α negative n e)) = some y) :
    decode source (encode a) = .ok y := by
  change orUnreadable (Floating.decode? (Floating.encode a)) = .ok y
  rw [Floating.encode, h]
  change orUnreadable (Floating.decode? (.ofNumeral (Floating.numeral α negative n e))) = .ok y
  rw [hy]
  rfl

lemma exists_decode_encode (h : m.Suits t) {x : Marked m t.Carrier} (hx : ¬ x.isMissing)
    (hfinite : Number.IsFinite x.raw) :
    ∃ y : t.Carrier, decode .direct (encode x.raw) = .ok y ∧
      (isSentinel m y ↔ NextToSentinel x) := by
  obtain ⟨negative, n, e, hexact⟩ := hfinite
  cases h with
  | greatest k =>
    refine ⟨x.raw, decode_fixed (.inl rfl) x.raw, iff_of_false hx ?_⟩
    rintro ⟨⟨⟩, -⟩
  | least t =>
    cases t with
    | integer k =>
      refine ⟨x.raw, decode_fixed (.inl rfl) x.raw, iff_of_false hx ?_⟩
      rintro ⟨-, ⟨⟩, -⟩
    | binary32 =>
      obtain ⟨y, hy, -, hleast⟩ := Floating.readBack hexact
      refine ⟨y, decode_floating hexact hy, iff_of_false ?_ ?_⟩
      · rintro hsentinel
        obtain ⟨rfl, htop⟩ := hleast.mp hsentinel
        exact hx (Floating.beq_least Floating.Reread.exact_least hexact htop)
      · rintro ⟨-, ⟨⟩, -⟩
    | binary64 =>
      obtain ⟨y, hy, -, hleast⟩ := Floating.readBack hexact
      exact ⟨y, decode_floating hexact hy, hleast.trans (nextToSentinel_iff hx hexact).symm⟩
  | nan32 | nan64 =>
    obtain ⟨y, hy, hnan, -⟩ := Floating.readBack hexact
    refine ⟨y, decode_floating hexact hy, iff_of_false (Bool.not_eq_true _ ▸ hnan) ?_⟩
    rintro ⟨⟨⟩, -⟩

lemma display_next {x : Marked m t.Carrier} (hx : NextToSentinel x) {y : t.Carrier}
    (hy : decode .direct (encode x.raw) = .ok y) :
    Legible.display y = Legible.display (sentinel m t.Carrier) := by
  obtain ⟨rfl, rfl, hexact⟩ := hx
  have hread : (Floating.decode? (.ofNumeral (Floating.numeral Float true (2 ^ 53 - 2) 971))).map
      (fun y : Float => Legible.display y) = some (Legible.display (Number.least : Float)) := by
    decide +kernel
  obtain ⟨z, hz, hdisplay⟩ := Option.map_eq_some_iff.mp hread
  have hdecode : decode .direct (encode x.raw) = .ok z :=
    decode_floating (hexact.trans exact_next) hz
  cases hy.symm.trans hdecode
  exact hdisplay

lemma ofText_toText_present (h : m.Suits t) {x : Marked m t.Carrier} (hx : ¬ x.isMissing)
    (hfinite : Number.IsFinite x.raw) :
    (NextToSentinel x → ofText (toText x) = (.error (.refused
        (.sentinelCollision "value" (Legible.display (sentinel m t.Carrier)))) :
          Decoded (Marked m t.Carrier))) ∧
      (¬ NextToSentinel x → ∃ y : Marked m t.Carrier, ofText (toText x) = .ok y ∧
        ¬ y.isMissing) := by
  obtain ⟨y, hy, hsentinel⟩ := exists_decode_encode h hx hfinite
  rw [ofText_toText_of_readable (readable_encode x), encode_present x hx, decode_eq m hy]
  constructor
  · intro hnext
    rw [if_pos (hsentinel.mpr hnext), display_next hnext hy]
  · intro hnext
    have hpresent : ¬ isSentinel m y := fun hmissing => hnext (hsentinel.mp hmissing)
    exact ⟨⟨y⟩, if_neg hpresent, hpresent⟩

/-- What is written as null is read as missing, infinities included. Any other value is read as
present, an integer as itself; next to the sentinel, and where a text spells the sentinel out, it
is refused. -/
theorem null_reads_missing (h : m.Suits t) :
    (∀ x : Marked m t.Carrier, toText x = "null" ↔ x.isMissing ∨ ¬ Number.IsFinite x.raw) ∧
      (∀ x : Marked m t.Carrier, toText x = "null" →
        ofText (toText x) = .ok (missing : Marked m t.Carrier) ∧
        (missing : Marked m t.Carrier).isMissing) ∧
      (∀ x : Marked m t.Carrier, ¬ x.isMissing → Number.IsFinite x.raw →
        (NextToSentinel x → ofText (toText x) = (.error (.refused
          (.sentinelCollision "value" (Legible.display (sentinel m t.Carrier)))) :
            Decoded (Marked m t.Carrier))) ∧
        (¬ NextToSentinel x → ∃ y : Marked m t.Carrier, ofText (toText x) = .ok y ∧
          ¬ y.isMissing)) ∧
      (∀ (s : String) (y : Marked m t.Carrier), ofText s = .ok y →
        (y.isMissing ↔ (Json.read s.toList).1 = .null)) ∧
      (∀ (s : String) (a : t.Carrier), ofText s = .ok a →
        ofText s =
          if isSentinel m a then .error (.refused (.sentinelCollision "value" (Legible.display a)))
          else .ok (⟨a⟩ : Marked m t.Carrier)) ∧
      ∀ k, t = .integer k → ∀ x : Marked m t.Carrier, ofText (toText x) = .ok x := by
  refine ⟨toText_eq_null_iff, ?_, fun x => ofText_toText_present h, ?_, ?_, ?_⟩
  · intro x hnull
    rw [hnull]
    exact ⟨rfl, isMissing_missing h⟩
  · intro s y hy
    exact isMissing_iff_null h (ofText_eq_ok_iff.mp hy).1
  · intro s a ha
    obtain ⟨hdecode, hclean⟩ := ofText_eq_ok_iff.mp ha
    rw [ofText_of_clean hclean, decode_eq m hdecode]
  · rintro k rfl x
    rw [ofText_toText (canonical_marked x)]
    exact decode_marked (.inl rfl) x

theorem null_reads_missing_least :
    Marker.Suits .least (.integer .int8) ∧
      (ofText " -128 " : Decoded (Marked .least (Fixed .int8))) =
        .error (.refused (.sentinelCollision "value" "-128")) ∧
      Marker.Suits .least .binary64 ∧
      (ofText (toText (least .least Float)) : Decoded (Marked .least Float)) =
        .error (.refused
          (.sentinelCollision "value" (Legible.display (sentinel .least Float)))) := by
  have hread : (ofText " -128 " : Decoded (Fixed .int8)) = .ok (Fixed.least .int8) := rfl
  have hdisplay : Legible.display (Fixed.least .int8) = "-128" := by decide +kernel
  have hpresent : ¬ (least .least Float).isMissing := by decide +kernel
  have hnext : NextToSentinel (t := .binary64) (least .least Float) := ⟨rfl, rfl, rfl⟩
  obtain ⟨-, -, -, -, hvalue, -⟩ := null_reads_missing (.least (.integer .int8))
  obtain ⟨-, -, hback, -⟩ := null_reads_missing (.least .binary64)
  obtain ⟨hrefused, -⟩ := hback _ hpresent ⟨_, _, _, exact_next⟩
  exact ⟨.least _, (hvalue _ _ hread).trans (hdisplay ▸ if_pos rfl), .least _, hrefused hnext⟩

theorem infinity_reads_missing :
    ∃ x : Marked .nan Float, x.raw = Floating.infinity ∧ ¬ x.isMissing ∧ toText x = "null" ∧
      ofText (toText x) = .ok (missing : Marked .nan Float) :=
  ⟨⟨Floating.infinity⟩, rfl, by decide +kernel, rfl, rfl⟩

end Marked

end Columnar
