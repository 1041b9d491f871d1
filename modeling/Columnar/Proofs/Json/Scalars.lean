import Columnar.Element
import Columnar.Proofs.Json.Text
import Columnar.Proofs.Result

namespace Columnar

open Json

/-- Written without floating-point numbers, at no depth, and read back, also from a buffer. -/
structure Scalar {α : Type} [Codec α] (a : α) : Prop where
  canonical : (encode a).Canonical
  buffers depth : buffers depth (encode a)
  decode source : decode source (encode a) = .ok a

section Integers

variable {t : IntegerType} {source : Source} {x : Int}

lemma fits_words (ht : t.width ≠ .w128) (h : t.Fits x) :
    -((Nat.pow 2 63 : Nat) : Int) ≤ x ∧ x < ((Nat.pow 2 64 : Nat) : Int) := by
  obtain ⟨hleast, hgreatest⟩ := h
  have hbounds : -((Nat.pow 2 63 : Nat) : Int) ≤ t.least ∧
      t.greatest < ((Nat.pow 2 64 : Nat) : Int) := by
    rcases t with ⟨signed, width⟩
    cases width
    case w128 => exact absurd rfl ht
    all_goals cases signed <;> decide
  exact ⟨Int.le_trans hbounds.1 hleast, Int.lt_of_le_of_lt hgreatest hbounds.2⟩

lemma value_ofInt (x : Int) :
    (if (Numeral.ofInt x).negative then -(Decimal.value (Numeral.ofInt x).whole : Int)
      else Decimal.value (Numeral.ofInt x).whole) = x := by
  rw [Numeral.ofInt, Decimal.value_digits]
  by_cases hx : x < 0
  · rw [if_pos (by simpa using hx)]
    omega
  · rw [if_neg (by simpa using hx)]
    omega

lemma quantity?_ofInt (hleast : -((Nat.pow 2 63 : Nat) : Int) ≤ x)
    (hbound : x < ((Nat.pow 2 64 : Nat) : Int)) :
    quantity? (Numeral.ofInt x) = some (.integer x) := by
  have hzero : 0 ≤ x ∨ x ≠ 0 := by omega
  rw [quantity?, value_ofInt]
  apply if_pos
  simpa [Numeral.ofInt, -Nat.pow_eq, hleast, hbound] using hzero

lemma ofInt?_val (a : Fixed t) : Fixed.ofInt? t a.val = some a := dif_pos a.fits

lemma wide?_ofInt (a : Fixed t) : Fixed.wide? t .direct (Numeral.ofInt a.val) = some a := by
  rw [Fixed.wide?, value_ofInt, ofInt?_val]
  apply if_pos
  cases hsigned : t.signed with
  | true => rfl
  | false =>
    have hleast : t.least = 0 := by simp [IntegerType.least, hsigned]
    have hnonneg : ¬ a.val < 0 := Int.not_lt.mpr (hleast ▸ a.fits.1)
    simp [Numeral.ofInt, hnonneg]

lemma front?_ofInt (h : source = .direct ∨ t.width ≠ .w128) (a : Fixed t) :
    Fixed.front? t source (.ofInt a.val) = some (a, true) := by
  by_cases ht : t.width = .w128
  · obtain rfl := h.resolve_right (not_not.mpr ht)
    simp only [ofInt, ofNumeral, Fixed.front?, ht, wide?_ofInt]
    rfl
  · obtain ⟨hleast, hbound⟩ := fits_words ht a.fits
    simp [ofInt, ofNumeral, Fixed.front?, ht, quantity?_ofInt hleast hbound, ofInt?_val]

lemma decode_fixed (h : source = .direct ∨ t.width ≠ .w128) (a : Fixed t) :
    decode source (encode a) = .ok a := by
  change orUnreadable (Fixed.decode? t source (.ofInt a.val)) = .ok a
  rw [Fixed.decode?, front?_ofInt h]
  rfl

lemma front?_wide (ht : t.width = .w128) (v : Json) : Fixed.front? t .buffered v = none := by
  cases v with
  | number n closed => simp [Fixed.front?, ht, Fixed.wide?]
  | _ => rfl

lemma scalar_fixed (ht : t.width ≠ .w128) (a : Fixed t) : Scalar a where
  canonical := .number a.val
  buffers depth := by
    obtain ⟨hleast, hbound⟩ := fits_words ht a.fits
    change buffers depth (.ofInt a.val) = true
    simp [ofInt, ofNumeral, buffers, quantity?_ofInt hleast hbound]
  decode _ := decode_fixed (.inr ht) a

lemma decode_wide (ht : t.width = .w128) (a : Fixed t) :
    decode .buffered (encode a) = (.error .unreadable : Decoded (Fixed t)) := by
  change orUnreadable (Fixed.decode? t .buffered (.ofInt a.val)) = .error .unreadable
  rw [Fixed.decode?, front?_wide ht]
  rfl

end Integers

lemma scalar_bool (b : Bool) : Scalar b where
  canonical := .bool b
  buffers _ := rfl
  decode _ := rfl

lemma scalar_string (s : String) : Scalar s where
  canonical := .string s
  buffers _ := rfl
  decode _ := rfl

lemma scalar_char (c : Char) : Scalar c where
  canonical := .string (String.singleton c)
  buffers _ := rfl
  decode _ := by
    change decodeChar (.ofString (String.singleton c)) = .ok c
    simp [ofString, decodeChar]

lemma scalar_timestamp (t : Timestamp) : Scalar t where
  canonical := (scalar_fixed (by decide) t.ticks).canonical
  buffers := (scalar_fixed (by decide) t.ticks).buffers
  decode source := by
    change (decode source (encode t.ticks)).map Timestamp.mk = .ok t
    rw [(scalar_fixed (by decide) t.ticks).decode source]
    rfl

section Missing

variable {m : Marker}

lemma encode_missing {α : Type} [Number α] [Legible α] [Codec α] (x : Marked m α)
    (h : x.isMissing) :
    encode x = .null := by
  change encodeOption encode x.toOption = .null
  rw [Marked.toOption, if_pos h]
  rfl

lemma encode_present {α : Type} [Number α] [Legible α] [Codec α] (x : Marked m α)
    (h : ¬ x.isMissing) :
    encode x = encode x.raw := by
  change encodeOption encode x.toOption = encode x.raw
  rw [Marked.toOption, if_neg h]
  rfl

variable {t : IntegerType} {source : Source}

lemma eq_missing_of_isMissing (x : Marked m (Fixed t)) (h : x.isMissing) : x = Marked.missing := by
  cases m with
  | greatest => exact congrArg Marked.mk (eq_of_beq h)
  | least => exact congrArg Marked.mk (eq_of_beq h)
  | nan => cases h

lemma decode_present (hsource : source = .direct ∨ t.width ≠ .w128) (x : Marked m (Fixed t))
    (h : ¬ x.isMissing) :
    decode source (encode x.raw) = (.ok x : Decoded (Marked m (Fixed t))) := by
  have hfront : decodeFront source (encode x.raw) =
      (.ok (x.raw, true) : Decoded (Fixed t × Bool)) := by
    change orUnreadable (Fixed.front? t source (.ofInt x.raw.val)) = .ok (x.raw, true)
    rw [front?_ofInt hsource]
    rfl
  have hvalue : Marked.ofValue m x.raw = .ok x := if_neg h
  change (do
    let (a, ends) ← (decodeFront source (encode x.raw) : Decoded (Fixed t × Bool))
    let y ← Json.accept (Marked.ofValue m a)
    if ends then return y else throw Fault.unreadable) = .ok x
  rw [hfront]
  change (Json.accept (Marked.ofValue m x.raw) >>= fun y => pure y) = .ok x
  rw [hvalue]
  rfl

lemma canonical_marked (x : Marked m (Fixed t)) : (encode x).Canonical := by
  by_cases h : x.isMissing
  · exact encode_missing x h ▸ .null
  · exact encode_present x h ▸ .number x.raw.val

lemma decode_marked (hsource : source = .direct ∨ t.width ≠ .w128) (x : Marked m (Fixed t)) :
    decode source (encode x) = .ok x := by
  by_cases h : x.isMissing
  · rw [encode_missing x h, eq_missing_of_isMissing x h]
    rfl
  · rw [encode_present x h]
    exact decode_present hsource x h

lemma scalar_marked (ht : t.width ≠ .w128) (x : Marked m (Fixed t)) : Scalar x where
  canonical := canonical_marked x
  buffers depth := by
    by_cases h : x.isMissing
    · rw [encode_missing x h]
      rfl
    · rw [encode_present x h]
      exact (scalar_fixed ht x.raw).buffers depth
  decode _ := decode_marked (.inr ht) x

end Missing

namespace ElementType

variable {t : ElementType}

def isFloating : ElementType → Bool
  | number .binary32 | number .binary64 | marked _ .binary32 | marked _ .binary64 => true
  | _ => false

lemma canonical_carrier (h : t.isFloating = false) (a : t.Carrier) : (encode a).Canonical := by
  cases t with
  | number t =>
    cases t with
    | integer t => exact .number a.val
    | binary32 | binary64 => cases h
  | marked m t =>
    cases t with
    | integer t => exact canonical_marked a
    | binary32 | binary64 => cases h
  | truth => exact (scalar_bool a).canonical
  | character => exact (scalar_char a).canonical
  | string => exact (scalar_string a).canonical
  | instant => exact (scalar_timestamp a).canonical

lemma decode_carrier (h : t.isFloating = false) (a : t.Carrier) :
    decode .direct (encode a) = .ok a := by
  cases t with
  | number t =>
    cases t with
    | integer t => exact decode_fixed (.inl rfl) a
    | binary32 | binary64 => cases h
  | marked m t =>
    cases t with
    | integer t => exact decode_marked (.inl rfl) a
    | binary32 | binary64 => cases h
  | truth => exact (scalar_bool a).decode .direct
  | character => exact (scalar_char a).decode .direct
  | string => exact (scalar_string a).decode .direct
  | instant => exact (scalar_timestamp a).decode .direct

end ElementType

end Columnar
