import Columnar.Json.Printer
import Columnar.Proofs.Json.Numerals

namespace Columnar.Json

inductive Canonical : Json → Prop
  | null : Canonical .null
  | bool (b : Bool) : Canonical (.bool b)
  | number (x : Int) : Canonical (.ofInt x)
  | string (s : String) : Canonical (.ofString s)
  | array {items : List Json} (h : ∀ v ∈ items, Canonical v) : Canonical (.ofList items)
  | object {members : List (String × Json)} (h : ∀ m ∈ members, Canonical m.2) :
    Canonical (.ofMembers members)

variable {rest : List Char} {n : Nat} {c : Char} {x : Int}

lemma escapeChar_cases (c : Char) :
    (∃ e, unescape? e = some c ∧ escapeChar c = ['\\', e]) ∨
    (c.toNat < 0x20 ∧ escapeChar c =
      ['\\', 'u', '0', '0', Text.hexDigit (c.toNat / 16), Text.hexDigit (c.toNat % 16)]) ∨
    (c ≠ '"' ∧ c ≠ '\\' ∧ ¬ c.toNat < 0x20 ∧ escapeChar c = [c]) := by
  rw [escapeChar.eq_def]
  split
  case h_1 => exact .inl ⟨'"', rfl, rfl⟩
  case h_2 => exact .inl ⟨'\\', rfl, rfl⟩
  case h_3 => exact .inl ⟨'b', rfl, rfl⟩
  case h_4 => exact .inl ⟨'t', rfl, rfl⟩
  case h_5 => exact .inl ⟨'n', rfl, rfl⟩
  case h_6 => exact .inl ⟨'f', rfl, rfl⟩
  case h_7 => exact .inl ⟨'r', rfl, rfl⟩
  case h_8 hquote hslash _ _ _ _ _ =>
    by_cases h : c.toNat < 0x20
    · rw [if_pos h]
      exact .inr (.inl ⟨h, rfl⟩)
    · rw [if_neg h]
      exact .inr (.inr ⟨hquote, hslash, h, rfl⟩)

lemma hexValue?_hexDigit (h : n < 16) : hexValue? (Text.hexDigit n) = some n := by
  revert n
  decide

lemma readPieces_plain {s : List Char} (hquote : c ≠ '"') (hslash : c ≠ '\\')
    (h : ¬ c.toNat < 0x20) :
    readPieces (c :: s) = (readPieces s).map fun (ps, r) => (.char c :: ps, r) := by
  rw [readPieces, if_neg h]
  · cases readPieces s with
    | none => rfl
    | some p => rfl
  · exact hquote
  · intro a b c d r hc
    exact absurd hc hslash
  · intro e r hc
    exact absurd hc hslash

lemma readPieces_escape {e : Char} {s : List Char} (he : unescape? e = some c) :
    readPieces ('\\' :: e :: s) = (readPieces s).map fun (ps, r) => (.char c :: ps, r) := by
  rw [readPieces, he]
  · cases readPieces s with
    | none => rfl
    | some p => rfl
  · rintro a b c d r rfl
    cases he

lemma readPieces_unit {s : List Char} (h : n < 0x20) :
    readPieces ('\\' :: 'u' :: '0' :: '0' :: Text.hexDigit (n / 16) ::
        Text.hexDigit (n % 16) :: s) =
      (readPieces s).map fun (ps, r) => (.unit n :: ps, r) := by
  have hunit : unit? '0' '0' (Text.hexDigit (n / 16)) (Text.hexDigit (n % 16)) = some n := by
    rw [unit?, hexValue?_hexDigit (by omega), hexValue?_hexDigit (by omega)]
    change some (4096 * 0 + 256 * 0 + 16 * (n / 16) + n % 16) = some n
    congr 1
    omega
  rw [readPieces, hunit]
  cases readPieces s with
  | none => rfl
  | some p => rfl

lemma joinPieces?_unit {ps : List Piece} (h : n < 0x20) :
    joinPieces? (.unit n :: ps) = (joinPieces? ps).map (Char.ofNat n :: ·) := by
  have hhigh : ¬ (0xD800 ≤ n ∧ n < 0xDC00) := by omega
  have hlow : ¬ (0xDC00 ≤ n ∧ n < 0xE000) := by omega
  have hneither : ¬ (0xD800 ≤ n ∧ n < 0xE000) := by omega
  cases ps with
  | nil => simp [joinPieces?, hneither]
  | cons p ps =>
    cases p with
    | char c => simp [joinPieces?, hneither]
    | unit m => simp [joinPieces?, hhigh, hlow]

lemma exists_piece (c : Char) :
    ∃ p, (∀ s, readPieces (escapeChar c ++ s) = (readPieces s).map fun (ps, r) => (p :: ps, r)) ∧
      ∀ ps, joinPieces? (p :: ps) = (joinPieces? ps).map (c :: ·) := by
  rcases escapeChar_cases c with ⟨e, he, hc⟩ | ⟨hunit, hc⟩ | ⟨hquote, hslash, hplain, hc⟩
  · refine ⟨.char c, fun s => ?_, fun _ => rfl⟩
    rw [hc]
    exact readPieces_escape he
  · refine ⟨.unit c.toNat, fun s => ?_, fun ps => ?_⟩
    · rw [hc]
      exact readPieces_unit hunit
    · rw [joinPieces?_unit hunit, Char.ofNat_toNat]
  · refine ⟨.char c, fun s => ?_, fun _ => rfl⟩
    rw [hc]
    exact readPieces_plain hquote hslash hplain

lemma exists_pieces (cs rest : List Char) :
    ∃ ps, readPieces (cs.flatMap escapeChar ++ '"' :: rest) = some (ps, rest) ∧
      joinPieces? ps = some cs := by
  induction cs with
  | nil => exact ⟨[], rfl, rfl⟩
  | cons c cs ih =>
    obtain ⟨ps, hps, hjoin⟩ := ih
    obtain ⟨p, hp, hc⟩ := exists_piece c
    refine ⟨p :: ps, ?_, ?_⟩
    · rw [List.flatMap_cons, List.append_assoc, hp, hps]
      rfl
    · rw [hc, hjoin]
      rfl

lemma readString_escaped (s : String) (rest : List Char) :
    readString (s.toList.flatMap escapeChar ++ '"' :: rest) = some (some s, rest) := by
  obtain ⟨ps, hps, hjoin⟩ := exists_pieces s.toList rest
  simp only [readString, hps, Option.map_some, hjoin, String.ofList_toList]

/-- The value is read where it stands in a text, within the bound that its length calls for. -/
def Readable (v : Json) : Prop :=
  ∀ bound rest, 2 * v.render.length ≤ bound → Ends rest → readValue bound (v.render ++ rest) =
    (v, some rest)

lemma ends_comma {s : List Char} : Ends (',' :: s) := by
  rintro c ⟨⟩
  exact .inl rfl

lemma ends_bracket {s : List Char} : Ends (']' :: s) := by
  rintro c ⟨⟩
  exact .inr (.inl rfl)

lemma ends_brace {s : List Char} : Ends ('\x7d' :: s) := by
  rintro c ⟨⟩
  exact .inr (.inr rfl)

lemma ends_nil : Ends [] := by
  rintro c ⟨⟩

lemma skipBlanks_cons {s : List Char} (h : isBlank c = false) : skipBlanks (c :: s) = c :: s := by
  rw [skipBlanks, List.dropWhile_cons_of_neg (by simp [h])]

lemma Readable.of_succ {v : Json} (hne : v.render ≠ [])
    (h : ∀ bound rest, 2 * v.render.length ≤ bound + 1 → Ends rest →
      readValue (bound + 1) (v.render ++ rest) = (v, some rest)) : Readable v := by
  intro bound rest hbound hrest
  have hpos := List.length_pos_iff.mpr hne
  cases bound with
  | zero => omega
  | succ bound => exact h bound rest hbound hrest

lemma readable_null : Readable .null :=
  .of_succ (List.cons_ne_nil _ _) fun _ _ _ _ => rfl

lemma readable_bool (b : Bool) : Readable (.bool b) := by
  cases b with
  | true => exact .of_succ (List.cons_ne_nil _ _) fun _ _ _ _ => rfl
  | false => exact .of_succ (List.cons_ne_nil _ _) fun _ _ _ _ => rfl

lemma readable_string (s : String) : Readable (.ofString s) := by
  apply Readable.of_succ
  · exact List.cons_ne_nil _ _
  · intro bound rest _ _
    have hread := readString_escaped s rest
    have htext : (ofString s).render ++ rest =
        '"' :: (s.toList.flatMap escapeChar ++ '"' :: rest) := by
      simp [ofString, render, renderString]
    rw [htext, readValue, skipBlanks_cons rfl]
    simp only [hread]
    rfl

lemma isBlank_of_numeral (h : c = '-' ∨ c.isDigit) : isBlank c = false := by
  rw [Bool.eq_false_iff]
  intro hblank
  simp only [isBlank, Bool.or_eq_true, beq_iff_eq] at hblank
  rcases hblank with ((rfl | rfl) | rfl) | rfl
  all_goals exact absurd h (by decide)

lemma readable_numeral {n : Numeral} (h : IsNumeral n) : Readable (.ofNumeral n) := by
  obtain ⟨c, cs, htext, hc⟩ := exists_text_cons h
  apply Readable.of_succ
  · rw [ofNumeral, render, htext]
    exact List.cons_ne_nil _ _
  · intro bound rest _ hrest
    have hread := readNumber_text h hrest
    rw [ofNumeral, render]
    rw [htext, List.cons_append] at hread ⊢
    rw [readValue, skipBlanks_cons (isBlank_of_numeral hc)]
    -- no other kind of value starts like a numeral
    split
    case h_7 => simp [hread]
    all_goals
      rename_i heq
      obtain ⟨rfl, -⟩ := List.cons.inj heq
      exact absurd hc (by decide)

lemma exists_render_cons {v : Json} (h : Canonical v) :
    ∃ c cs, v.render = c :: cs ∧ isBlank c = false ∧ c ≠ ']' := by
  cases h with
  | null => exact ⟨'n', _, rfl, rfl, by decide⟩
  | bool b =>
    cases b with
    | true => exact ⟨'t', _, rfl, rfl, by decide⟩
    | false => exact ⟨'f', _, rfl, rfl, by decide⟩
  | number x =>
    obtain ⟨c, cs, htext, hc⟩ := exists_text_cons (isNumeral_ofInt x)
    refine ⟨c, cs, htext, isBlank_of_numeral hc, ?_⟩
    rintro rfl
    exact absurd hc (by decide)
  | string s => exact ⟨'"', _, rfl, rfl, by decide⟩
  | array h => exact ⟨'[', _, rfl, rfl, by decide⟩
  | object h => exact ⟨'\x7b', _, rfl, rfl, by decide⟩

lemma renderItems_cons_cons (v w : Json) (vs : List Json) :
    renderItems (v :: w :: vs) = v.render ++ ',' :: renderItems (w :: vs) := rfl

lemma readItems_render {items : List Json} (h : ∀ v ∈ items, Readable v) (hne : items ≠ [])
    (bound : Nat) (rest : List Char) (hbound : 2 * (renderItems items).length + 1 ≤ bound) :
    readItems bound (renderItems items ++ ']' :: rest) = (items, some rest) := by
  induction items generalizing bound with
  | nil => exact absurd rfl hne
  | cons v vs ih =>
    obtain ⟨hv, hvs⟩ := List.forall_mem_cons.mp h
    cases bound with
    | zero => omega
    | succ bound =>
      cases vs with
      | nil =>
        rw [renderItems] at hbound ⊢
        rw [readItems, hv bound _ (by omega) ends_bracket]
        rfl
      | cons w vs =>
        rw [renderItems_cons_cons] at hbound ⊢
        simp only [List.length_append, List.length_cons] at hbound
        rw [List.append_assoc, List.cons_append, readItems, hv bound _ (by omega) ends_comma]
        simp only [skipBlanks_cons (c := ',') rfl, ih hvs (List.cons_ne_nil w vs) bound (by omega)]

lemma readValue_bracket {bound : Nat} {s : List Char} (hblank : isBlank c = false) (hc : c ≠ ']') :
    readValue (bound + 1) ('[' :: c :: s) =
      ((.array (readItems bound (c :: s)).1 (readItems bound (c :: s)).2.isSome),
        (readItems bound (c :: s)).2) := by
  rw [readValue, skipBlanks_cons rfl]
  simp only [skipBlanks_cons hblank]
  split
  case h_1 heq => exact absurd (List.cons.inj heq).1 hc
  case h_2 => rfl

lemma readable_array {items : List Json} (hcanonical : ∀ v ∈ items, Canonical v)
    (h : ∀ v ∈ items, Readable v) : Readable (.ofList items) := by
  apply Readable.of_succ
  · exact List.cons_ne_nil _ _
  · intro bound rest hbound _
    cases items with
    | nil => rfl
    | cons v vs =>
      simp only [ofList, render, List.length_append, List.length_cons, List.length_nil] at hbound
      have hread := readItems_render h (List.cons_ne_nil v vs) bound rest (by omega)
      obtain ⟨c, cs, hc, hblank, hbracket⟩ := exists_render_cons (hcanonical v List.mem_cons_self)
      obtain ⟨tail, htail⟩ : ∃ tail, renderItems (v :: vs) = c :: tail := by
        cases vs with
        | nil => exact ⟨cs, hc⟩
        | cons w vs => exact ⟨_, by rw [renderItems_cons_cons, hc, List.cons_append]⟩
      have htext : (ofList (v :: vs)).render ++ rest =
          '[' :: (renderItems (v :: vs) ++ ']' :: rest) := by
        simp [ofList, render]
      rw [htail, List.cons_append] at hread
      rw [htext, htail, List.cons_append, readValue_bracket hblank hbracket, hread]
      rfl

def named (members : List (String × Json)) : List (Option String × Json) :=
  members.map fun (k, v) => (some k, v)

lemma named_cons (m : String × Json) (ms : List (String × Json)) :
    named (m :: ms) = (some m.1, m.2) :: named ms := rfl

lemma renderMembers_singleton (k : String) (v : Json) :
    renderMembers (named [(k, v)]) = renderString k ++ ':' :: v.render := rfl

lemma renderMembers_cons_cons (k : String) (v : Json) (m : String × Json)
    (ms : List (String × Json)) :
    renderMembers (named ((k, v) :: m :: ms)) =
      renderString k ++ ':' :: v.render ++ ',' :: renderMembers (named (m :: ms)) := rfl

lemma renderString_append (k : String) (s : List Char) :
    renderString k ++ s = '"' :: (k.toList.flatMap escapeChar ++ '"' :: s) := by
  simp [renderString]

lemma readMembers_render {members : List (String × Json)} (h : ∀ m ∈ members, Readable m.2)
    (hne : members ≠ []) (bound : Nat) (rest : List Char)
    (hbound : 2 * (renderMembers (named members)).length + 1 ≤ bound) :
    readMembers bound (renderMembers (named members) ++ '\x7d' :: rest) =
      (named members, some rest) := by
  induction members generalizing bound with
  | nil => exact absurd rfl hne
  | cons m ms ih =>
    obtain ⟨k, v⟩ := m
    obtain ⟨hv, hms⟩ : Readable v ∧ ∀ m ∈ ms, Readable m.2 := List.forall_mem_cons.mp h
    cases bound with
    | zero => omega
    | succ bound =>
      cases ms with
      | nil =>
        rw [renderMembers_singleton] at hbound ⊢
        simp only [List.length_append, List.length_cons] at hbound
        rw [List.append_assoc, renderString_append, readMembers, skipBlanks_cons rfl]
        simp only [readString_escaped, List.cons_append, skipBlanks_cons (c := ':') rfl]
        rw [hv bound _ (by omega) ends_brace]
        rfl
      | cons m ms =>
        rw [renderMembers_cons_cons] at hbound ⊢
        simp only [List.length_append, List.length_cons] at hbound
        rw [List.append_assoc, List.append_assoc, renderString_append, readMembers,
          skipBlanks_cons rfl]
        simp only [readString_escaped, List.cons_append, skipBlanks_cons (c := ':') rfl]
        rw [hv bound _ (by omega) ends_comma]
        simp only [skipBlanks_cons (c := ',') rfl, ih hms (List.cons_ne_nil m ms) bound (by omega)]
        rfl

lemma readValue_brace {bound : Nat} {s : List Char} :
    readValue (bound + 1) ('\x7b' :: '"' :: s) =
      ((.object (readMembers bound ('"' :: s)).1 (readMembers bound ('"' :: s)).2.isSome),
        (readMembers bound ('"' :: s)).2) := rfl

lemma readable_object {members : List (String × Json)} (h : ∀ m ∈ members, Readable m.2) :
    Readable (.ofMembers members) := by
  apply Readable.of_succ
  · exact List.cons_ne_nil _ _
  · intro bound rest hbound _
    cases members with
    | nil => rfl
    | cons m ms =>
      have hrender : (ofMembers (m :: ms)).render =
          '\x7b' :: renderMembers (named (m :: ms)) ++ ['\x7d'] := rfl
      rw [hrender] at hbound ⊢
      simp only [List.length_append, List.length_cons, List.length_nil] at hbound
      have hread := readMembers_render h (List.cons_ne_nil m ms) bound rest (by omega)
      obtain ⟨tail, htail⟩ : ∃ tail, renderMembers (named (m :: ms)) = '"' :: tail := by
        cases ms with
        | nil => exact ⟨_, rfl⟩
        | cons w ms => exact ⟨_, rfl⟩
      rw [htail, List.cons_append] at hread
      rw [htail, List.append_assoc, List.cons_append, List.cons_append, List.singleton_append,
        readValue_brace, hread]
      rfl

lemma Canonical.readable {v : Json} (h : Canonical v) : Readable v := by
  induction h with
  | null => exact readable_null
  | bool b => exact readable_bool b
  | number x => exact readable_numeral (isNumeral_ofInt x)
  | string s => exact readable_string s
  | array h ih => exact readable_array h ih
  | object h ih => exact readable_object ih

lemma Readable.read_text {v : Json} (h : Readable v) : read v.text.toList = (v, true) := by
  have hread := h (2 * v.render.length + 2) [] (by omega) ends_nil
  rw [List.append_nil] at hread
  rw [text, String.toList_ofList, read, hread]
  rfl

lemma read_text {v : Json} (h : Canonical v) : read v.text.toList = (v, true) :=
  h.readable.read_text

end Columnar.Json
