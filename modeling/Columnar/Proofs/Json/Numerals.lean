import Columnar.Json.Reader
import Columnar.Proofs.Decimal.Digits

namespace Columnar.Json

def Ends (rest : List Char) : Prop := ∀ c ∈ rest.head?, c = ',' ∨ c = ']' ∨ c = '\x7d'

variable {ds fraction rest : List Char} {n : Numeral}

def AllDigits (ds : List Char) : Prop := ∀ c ∈ ds, c.isDigit

def IsWhole (ds : List Char) : Prop := AllDigits ds ∧ ∃ c cs, ds = c :: cs ∧ (c = '0' → cs = [])

def IsExponent (e : List Char) : Prop :=
  ∃ sign ds, e = sign ++ ds ∧ (sign = [] ∨ sign = ['+'] ∨ sign = ['-']) ∧ AllDigits ds ∧ ds ≠ []

structure IsNumeral (n : Numeral) : Prop where
  whole : IsWhole n.whole
  fraction : AllDigits n.fraction
  exponent : ∀ e ∈ n.exponent, IsExponent e

lemma not_isDigit_of_ends (h : Ends rest) : ∀ c ∈ rest.head?, c.isDigit = false := by
  intro c hc
  rcases h c hc with rfl | rfl | rfl
  · rfl
  · rfl
  · rfl

lemma takeDigits_append (hds : AllDigits ds) (hrest : ∀ c ∈ rest.head?, c.isDigit = false) :
    takeDigits (ds ++ rest) = (ds, rest) := by
  rw [takeDigits, List.takeWhile_append_of_pos hds, List.dropWhile_append_of_pos hds]
  cases rest with
  | nil => simp
  | cons c rest => simp [hrest c rfl]

lemma readWhole_append (h : IsWhole ds) (hrest : ∀ c ∈ rest.head?, c.isDigit = false) :
    readWhole (ds ++ rest) = some (ds, rest) := by
  obtain ⟨hdigits, c, cs, rfl, hzero⟩ := h
  rw [readWhole, takeDigits_append hdigits hrest]
  split
  case h_1 heq => cases heq
  case h_2 heq =>
    cases heq
    cases hzero rfl
  case h_3 heq =>
    cases heq
    rfl

lemma readFraction_append (hdigits : AllDigits ds) (hrest : ∀ c ∈ rest.head?, c.isDigit = false)
    (hpoint : ∀ c ∈ rest.head?, c ≠ '.') :
    readFraction ((if ds.isEmpty then [] else '.' :: ds) ++ rest) = some (ds, rest) := by
  cases ds with
  | nil =>
    cases rest with
    | nil => rfl
    | cons c rest =>
      have hc : c ≠ '.' := hpoint c rfl
      change readFraction (c :: rest) = _
      rw [readFraction]
      rintro r ⟨⟩
      exact hc rfl
  | cons c cs =>
    change readFraction ('.' :: (c :: cs ++ rest)) = _
    rw [readFraction, takeDigits_append hdigits hrest]

lemma readExponent_ends (h : Ends rest) : readExponent rest = some (none, rest) := by
  cases rest with
  | nil => rfl
  | cons c rest =>
    rcases h c rfl with rfl | rfl | rfl
    · rfl
    · rfl
    · rfl

lemma readExponent_append {e : List Char} (he : IsExponent e)
    (hrest : ∀ c ∈ rest.head?, c.isDigit = false) :
    readExponent ('e' :: (e ++ rest)) = some (some e, rest) := by
  obtain ⟨sign, ds, rfl, hsign, hdigits, hne⟩ := he
  have htake := takeDigits_append hdigits hrest
  obtain ⟨c, cs, rfl⟩ := List.exists_cons_of_ne_nil hne
  have hc : c.isDigit := hdigits c List.mem_cons_self
  rcases hsign with rfl | rfl | rfl
  · rw [List.nil_append, readExponent, if_pos (by decide), htake]
    · rfl
    · rintro r ⟨⟩
      cases hc
    · rintro r ⟨⟩
      cases hc
  · rw [List.singleton_append, List.cons_append, readExponent, if_pos (by decide), htake]
    rfl
  · rw [List.singleton_append, List.cons_append, readExponent, if_pos (by decide), htake]
    rfl

def exponentText : Option (List Char) → List Char
  | none => []
  | some e => 'e' :: e

lemma readTail_eq {negative : Bool} {whole s t r : List Char} {exponent : Option (List Char)}
    (hfraction : readFraction s = some (fraction, t))
    (hexponent : readExponent t = some (exponent, r)) :
    readTail negative whole s = some (⟨negative, whole, fraction, exponent⟩, r) := by
  simp [readTail, hfraction, hexponent]

lemma readTail_text (negative : Bool) (whole : List Char) {exponent : Option (List Char)}
    (hfraction : AllDigits fraction) (hexponent : ∀ e ∈ exponent, IsExponent e)
    (hrest : Ends rest) :
    readTail negative whole ((if fraction.isEmpty then [] else '.' :: fraction) ++
        (exponentText exponent ++ rest)) =
      some (⟨negative, whole, fraction, exponent⟩, rest) := by
  have hdigit := not_isDigit_of_ends hrest
  cases exponent with
  | none =>
    have hpoint : ∀ c ∈ rest.head?, c ≠ '.' := by
      intro c hc
      rcases hrest c hc with rfl | rfl | rfl
      all_goals decide
    exact readTail_eq (readFraction_append hfraction hdigit hpoint) (readExponent_ends hrest)
  | some e =>
    have hmark : ∀ c ∈ ('e' :: (e ++ rest)).head?, c.isDigit = false ∧ c ≠ '.' := by
      rintro c ⟨⟩
      decide
    exact readTail_eq
      (readFraction_append hfraction (fun c hc => (hmark c hc).1) fun c hc => (hmark c hc).2)
      (readExponent_append (hexponent e rfl) hdigit)

lemma text_eq (n : Numeral) :
    n.text = (if n.negative then ['-'] else []) ++ (n.whole ++
      ((if n.fraction.isEmpty then [] else '.' :: n.fraction) ++ exponentText n.exponent)) := by
  rcases n with ⟨negative, whole, fraction, _ | e⟩
  all_goals
    cases negative
    all_goals simp [Numeral.text, Numeral.body, exponentText]

lemma head_not_isDigit (fraction : List Char) (exponent : Option (List Char)) (hrest : Ends rest) :
    ∀ c ∈ ((if fraction.isEmpty then [] else '.' :: fraction) ++
      (exponentText exponent ++ rest)).head?, c.isDigit = false := by
  cases fraction with
  | nil =>
    cases exponent with
    | none => exact not_isDigit_of_ends hrest
    | some e =>
      rintro c ⟨⟩
      rfl
  | cons c fraction =>
    rintro c ⟨⟩
    rfl

lemma readNumber_minus {whole t u : List Char} (hwhole : readWhole t = some (whole, u))
    (htail : readTail true whole u = some (n, rest)) :
    readNumber ('-' :: t) = some (n, some rest) := by
  simp [readNumber, hwhole, htail]

lemma readNumber_digit {whole t u : List Char} (hsign : ∀ r, t ≠ '-' :: r)
    (hwhole : readWhole t = some (whole, u)) (htail : readTail false whole u = some (n, rest)) :
    readNumber t = some (n, some rest) := by
  rw [readNumber]
  · simp [hwhole, htail]
  · exact hsign

lemma readNumber_text (h : IsNumeral n) (hrest : Ends rest) :
    readNumber (n.text ++ rest) = some (n, some rest) := by
  obtain ⟨negative, whole, fraction, exponent⟩ := n
  obtain ⟨hwhole, hfraction, hexponent⟩ := h
  have hread := readWhole_append hwhole (head_not_isDigit fraction exponent hrest)
  have htail := readTail_text negative whole hfraction hexponent hrest
  rw [text_eq, List.append_assoc, List.append_assoc, List.append_assoc]
  cases negative with
  | true => exact readNumber_minus hread htail
  | false =>
    refine readNumber_digit ?_ hread htail
    obtain ⟨hdigits, c, cs, rfl, -⟩ := hwhole
    rintro r ⟨⟩
    exact absurd (hdigits '-' List.mem_cons_self) (by decide)

lemma exists_text_cons (h : IsNumeral n) : ∃ c cs, n.text = c :: cs ∧ (c = '-' ∨ c.isDigit) := by
  rw [text_eq]
  cases n.negative with
  | true => exact ⟨'-', _, rfl, .inl rfl⟩
  | false =>
    obtain ⟨hdigits, c, cs, hcons, -⟩ := h.whole
    rw [hcons] at hdigits ⊢
    exact ⟨c, _, rfl, .inr (hdigits c List.mem_cons_self)⟩

lemma isWhole_digits (m : Nat) : IsWhole (Decimal.digits m) := by
  refine ⟨fun c hc => Decimal.isDigit_of_mem_digits hc, ?_⟩
  by_cases hm : m = 0
  · rw [hm, Decimal.digits_zero]
    exact ⟨'0', [], rfl, fun _ => rfl⟩
  · obtain ⟨c, cs, hcs, hc⟩ := Decimal.exists_digits_cons hm
    exact ⟨c, cs, hcs, fun hzero => absurd hzero hc⟩

lemma isNumeral_ofInt (x : Int) : IsNumeral (Numeral.ofInt x) where
  whole := isWhole_digits x.natAbs
  fraction := by
    rintro c ⟨⟩
  exponent := by
    rintro e ⟨⟩

end Columnar.Json
