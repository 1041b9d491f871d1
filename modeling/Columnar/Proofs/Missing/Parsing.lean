import Columnar.Missing.Text
import Columnar.Proofs.Decimal.Digits
import Columnar.Proofs.Json.Scalars
import Columnar.Proofs.Missing.Sentinel
import Columnar.Proofs.Scalar.Wrapping
import Mathlib.Data.List.DropRight

namespace Columnar

namespace Text

variable {s u : List Char}

structure Trims (s u : List Char) : Prop where
  between : ∃ before after, s = before ++ u ++ after ∧ (∀ c ∈ before, isBlank c) ∧
    ∀ c ∈ after, isBlank c
  first : ∀ c ∈ u.head?, ¬isBlank c
  last : ∀ c ∈ u.getLast?, ¬isBlank c

lemma dropWhile_isBlank_append {before : List Char} (hbefore : ∀ c ∈ before, isBlank c)
    (hfirst : ∀ c ∈ u.head?, ¬isBlank c) : (before ++ u).dropWhile isBlank = u := by
  rw [List.dropWhile_append_of_pos hbefore]
  cases u with
  | nil => rfl
  | cons c u => exact List.dropWhile_cons_of_neg (hfirst c rfl)

lemma trim_eq_of_trims (h : Trims s u) : trim s = u := by
  obtain ⟨before, after, rfl, hbefore, hafter⟩ := h.between
  rw [trim, List.append_assoc, List.dropWhile_append_of_pos hbefore]
  cases u with
  | nil =>
    rw [List.nil_append, List.dropWhile_eq_nil_iff.mpr hafter]
    rfl
  | cons c u =>
    rw [List.cons_append, List.dropWhile_cons_of_neg (h.first c rfl), ← List.cons_append,
      List.reverse_append, dropWhile_isBlank_append (fun c hc => hafter c (List.mem_reverse.mp hc)),
      List.reverse_reverse]
    rw [List.head?_reverse]
    exact h.last

lemma trims_trim (s : List Char) : Trims s (trim s) := by
  have htrim : trim s = (s.dropWhile isBlank).rdropWhile isBlank := rfl
  constructor
  · refine ⟨s.takeWhile isBlank, (s.dropWhile isBlank).rtakeWhile isBlank, ?_,
      fun c => List.mem_takeWhile_imp, fun c => List.mem_rtakeWhile_imp⟩
    rw [htrim, List.append_assoc, List.rdropWhile_append_rtakeWhile,
      List.takeWhile_append_dropWhile]
  · intro c hc
    obtain ⟨after, hafter⟩ := List.rdropWhile_prefix isBlank (s.dropWhile isBlank)
    have hhead := List.head?_dropWhile_not isBlank s
    rw [← hafter, ← htrim, List.head?_append, Option.mem_def.mp hc] at hhead
    exact Bool.eq_false_iff.mp hhead
  · intro c hc
    obtain ⟨hne, rfl⟩ := List.mem_getLast?_eq_getLast hc
    exact List.rdropWhile_last_not _ _ hne

end Text

namespace Decimal

def IsDigits (ds : List Char) : Prop := ds ≠ [] ∧ ∀ c ∈ ds, c.isDigit

instance : DecidablePred IsDigits := fun ds =>
  decidable_of_iff (ds ≠ [] ∧ ds.all Char.isDigit) (and_congr_right fun _ => List.all_eq_true)

inductive Denotes (signed : Bool) : List Char → Int → Prop
  | bare {ds : List Char} (hds : IsDigits ds) : Denotes signed ds (value ds)
  | plus {ds : List Char} (hds : IsDigits ds) : Denotes signed ('+' :: ds) (value ds)
  | minus {ds : List Char} (hds : IsDigits ds) (hsigned : signed) :
    Denotes signed ('-' :: ds) (-value ds)

variable {signed : Bool} {s : List Char} {x y : Int}

lemma not_isDigits_cons {c : Char} {ds : List Char} (hc : c.isDigit = false) :
    ¬IsDigits (c :: ds) :=
  fun hds => Bool.false_ne_true (hc.symm.trans (hds.2 c List.mem_cons_self))

lemma denotes_plus_iff {ds : List Char} :
    Denotes signed ('+' :: ds) x ↔ IsDigits ds ∧ x = value ds := by
  constructor
  · intro h
    cases h with
    | bare hds => exact absurd hds (not_isDigits_cons rfl)
    | plus hds => exact ⟨hds, rfl⟩
  · rintro ⟨hds, rfl⟩
    exact .plus hds

lemma denotes_minus_iff {ds : List Char} :
    Denotes signed ('-' :: ds) x ↔ IsDigits ds ∧ signed ∧ x = -(value ds : Int) := by
  constructor
  · intro h
    cases h with
    | bare hds => exact absurd hds (not_isDigits_cons rfl)
    | minus hds hsigned => exact ⟨hds, hsigned, rfl⟩
  · rintro ⟨hds, hsigned, rfl⟩
    exact .minus hds hsigned

lemma denotes_bare_iff (hplus : ∀ ds, s ≠ '+' :: ds) (hminus : ∀ ds, s ≠ '-' :: ds) :
    Denotes signed s x ↔ IsDigits s ∧ x = value s := by
  constructor
  · intro h
    cases h with
    | bare hds => exact ⟨hds, rfl⟩
    | plus hds => exact absurd rfl (hplus _)
    | minus hds hsigned => exact absurd rfl (hminus _)
  · rintro ⟨hds, rfl⟩
    exact .bare hds

lemma readInt?_of_takeSign {negative : Bool} {ds : List Char} (h : takeSign s = (negative, ds)) :
    readInt? signed s = some x ↔
      IsDigits ds ∧ (negative → signed) ∧ x = if negative then -(value ds : Int) else value ds := by
  have hread : readInt? signed s =
    if ds.isEmpty || !ds.all Char.isDigit || (negative && !signed) then none
      else some (if negative then -(value ds : Int) else value ds) := by
    rw [readInt?, h]
  have hrefused : (ds.isEmpty || !ds.all Char.isDigit || (negative && !signed)) = false ↔
      IsDigits ds ∧ (negative → signed) := by
    simp [IsDigits, and_assoc]
  rw [hread, ← and_assoc, ← hrefused]
  cases ds.isEmpty || !ds.all Char.isDigit || (negative && !signed) with
  | true => simp
  | false => simp [eq_comm]

lemma readInt?_eq_some_iff : readInt? signed s = some x ↔ Denotes signed s x := by
  rcases htake : takeSign s with ⟨negative, ds⟩
  rw [readInt?_of_takeSign htake]
  revert htake
  fun_cases takeSign s with
  | case1 ds =>
    rintro ⟨⟩
    simp [denotes_plus_iff]
  | case2 ds =>
    rintro ⟨⟩
    simp [denotes_minus_iff]
  | case3 s hplus hminus =>
    rintro ⟨⟩
    simp [denotes_bare_iff hplus hminus]

lemma Denotes.unique (hx : Denotes signed s x) (hy : Denotes signed s y) : x = y := by
  rw [← readInt?_eq_some_iff] at hx hy
  exact Option.some.inj (hx.symm.trans hy)

lemma isDigits_digits (n : Nat) : IsDigits (digits n) :=
  ⟨digits_ne_nil n, fun _ => isDigit_of_mem_digits⟩

lemma denotes_signed (h : x < 0 → signed) : Denotes signed (Decimal.signed x) x := by
  rw [Decimal.signed]
  split
  case isTrue hneg =>
    rw [denotes_minus_iff, value_digits]
    exact ⟨isDigits_digits _, h hneg, by omega⟩
  case isFalse hneg =>
    have hdenotes : Denotes signed (digits x.natAbs) (value (digits x.natAbs)) :=
      .bare (isDigits_digits _)
    rw [value_digits, Int.natAbs_of_nonneg (Int.not_lt.mp hneg)] at hdenotes
    exact hdenotes

lemma not_isBlank_of_isDigit {c : Char} (hc : c.isDigit) : ¬Text.isBlank c := by
  obtain ⟨hlow, hhigh⟩ : 48 ≤ c.toNat ∧ c.toNat ≤ 57 := Char.isDigit_iff_toNat.mp hc
  simp [Text.isBlank, Text.blankRanges]
  omega

lemma trim_of_denotes (h : Denotes signed s x) : Text.trim s = s := by
  have hblank : ∀ c ∈ s, ¬Text.isBlank c := by
    cases h with
    | bare hds => exact fun c hc => not_isBlank_of_isDigit (hds.2 c hc)
    | plus hds =>
      exact List.forall_mem_cons.mpr ⟨by decide, fun c hc => not_isBlank_of_isDigit (hds.2 c hc)⟩
    | minus hds _ =>
      exact List.forall_mem_cons.mpr ⟨by decide, fun c hc => not_isBlank_of_isDigit (hds.2 c hc)⟩
  apply Text.trim_eq_of_trims
  constructor
  · exact ⟨[], [], by simp, nofun, nofun⟩
  · exact fun c hc => hblank c (List.mem_of_mem_head? hc)
  · exact fun c hc => hblank c (List.mem_of_mem_getLast? hc)

end Decimal

namespace Marked

open Decimal

variable {m : Marker} {t : IntegerType} {s : String} {u : List Char}

structure IsParse (u : List Char) (r : Result (Marked m (Fixed t))) : Prop where
  missing_iff : (∃ x, r = .ok x ∧ x.isMissing) ↔ u = missingText.toList
  present_iff : ∀ v, (∃ x, r = .ok x ∧ ¬x.isMissing ∧ x.raw.val = v) ↔
    Denotes t.signed u v ∧ t.Fits v ∧ v ≠ (sentinel m (Fixed t)).val
  collision_iff : r = .error (.sentinelCollision "value" (Fixed.display (sentinel m (Fixed t)))) ↔
    Denotes t.signed u (sentinel m (Fixed t)).val
  invalid_iff : r = .error (.invalidData (.unreadable (String.ofList u))) ↔
    u ≠ missingText.toList ∧ ∀ v, Denotes t.signed u v → ¬t.Fits v

lemma not_denotes_missingText {signed : Bool} {v : Int} : ¬Denotes signed missingText.toList v := by
  intro h
  cases h with
  | bare hds => exact not_isDigits_cons rfl hds

lemma isSentinel_iff (h : m.Suits (.integer t)) {a : Fixed t} :
    isSentinel m a ↔ a = sentinel m (Fixed t) := by
  cases h with
  | greatest => exact beq_iff_eq
  | least => exact beq_iff_eq

lemma read?_eq_some_iff {a : Fixed t} : Fielded.read? u = some a ↔ Denotes t.signed u a.val := by
  have hread : (Fielded.read? u : Option (Fixed t)) = (readInt? t.signed u).bind (Fixed.ofInt? t) :=
    rfl
  rw [hread, Option.bind_eq_some_iff]
  simp only [Fixed.ofInt?_eq_some_iff, readInt?_eq_some_iff]
  constructor
  · rintro ⟨v, hv, rfl⟩
    exact hv
  · intro ha
    exact ⟨_, ha, rfl⟩

section Fielded

variable {α : Type} [Number α] [Fielded α] {a : α}

lemma parse_of_missing (hu : Text.trim s.toList = missingText.toList) :
    parse m s = (.ok missing : Result (Marked m α)) := by
  rw [parse, hu]
  rfl

lemma parse_of_read (hu : Text.trim s.toList = u) (hna : u ≠ missingText.toList)
    (hread : Fielded.read? u = some a) : parse m s = ofValue m a := by
  rw [parse, hu]
  rw [if_neg hna, hread]

lemma parse_of_unread (hu : Text.trim s.toList = u) (hna : u ≠ missingText.toList)
    (hread : (Fielded.read? u : Option α) = none) :
    parse m s = (.error (.invalidData (.unreadable (String.ofList u))) : Result (Marked m α)) := by
  rw [parse, hu]
  rw [if_neg hna, hread]

end Fielded

lemma parse_cases (h : m.Suits (.integer t)) (hu : Text.trim s.toList = u) :
    (u = missingText.toList ∧ parse m s = (.ok missing : Result (Marked m (Fixed t)))) ∨
    (∃ a : Fixed t, Denotes t.signed u a.val ∧ a ≠ sentinel m (Fixed t) ∧ parse m s = .ok ⟨a⟩) ∨
    (Denotes t.signed u (sentinel m (Fixed t)).val ∧ parse m s =
      (.error (.sentinelCollision "value" (Fixed.display (sentinel m (Fixed t)))) :
        Result (Marked m (Fixed t)))) ∨
    (u ≠ missingText.toList ∧ (∀ a : Fixed t, ¬Denotes t.signed u a.val) ∧
      parse m s =
        (.error (.invalidData (.unreadable (String.ofList u))) : Result (Marked m (Fixed t)))) := by
  by_cases hna : u = missingText.toList
  · exact .inl ⟨hna, parse_of_missing (hna ▸ hu)⟩
  cases hread : (Fielded.read? u : Option (Fixed t)) with
  | some a =>
    have hdenotes := read?_eq_some_iff.mp hread
    have hparse := parse_of_read (m := m) hu hna hread
    by_cases ha : a = sentinel m (Fixed t)
    · rw [ofValue, if_pos ((isSentinel_iff h).mpr ha), ha] at hparse
      exact .inr (.inr (.inl ⟨ha ▸ hdenotes, hparse⟩))
    · rw [ofValue, if_neg ((isSentinel_iff h).not.mpr ha)] at hparse
      exact .inr (.inl ⟨a, hdenotes, ha, hparse⟩)
  | none =>
    refine .inr (.inr (.inr ⟨hna, fun a ha => ?_, parse_of_unread hu hna hread⟩))
    rw [read?_eq_some_iff.mpr ha] at hread
    cases hread

lemma isMissing_iff (h : m.Suits (.integer t)) {x : Marked m (Fixed t)} :
    x.isMissing ↔ x.raw = sentinel m (Fixed t) :=
  isSentinel_iff h

lemma isParse_parse (h : m.Suits (.integer t)) (hu : Text.trim s.toList = u) :
    IsParse u (parse m s : Result (Marked m (Fixed t))) := by
  have honly {a : Fixed t} (ha : Denotes t.signed u a.val) (v : Int) :
      Denotes t.signed u v ↔ v = a.val :=
    ⟨fun hv => hv.unique ha, fun hv => hv ▸ ha⟩
  rcases parse_cases h hu with ⟨rfl, hr⟩ | ⟨a, ha, hne, hr⟩ | ⟨ha, hr⟩ | ⟨hna, hnone, hr⟩
  · have hmissing : (missing : Marked m (Fixed t)).isMissing := isMissing_missing h
    constructor <;> simp [hr, not_denotes_missingText, hmissing]
  · have hna : u ≠ missingText.toList := fun hna => not_denotes_missingText (hna ▸ ha)
    have hval : a.val ≠ (sentinel m (Fixed t)).val := fun hval => hne (Fixed.ext hval)
    constructor
    · simp [hr, hna, isMissing_iff h, hne]
    · intro v
      simp only [hr, isMissing_iff h, honly ha, Except.ok.injEq, exists_eq_left']
      constructor
      · rintro ⟨-, rfl⟩
        exact ⟨rfl, a.fits, hval⟩
      · rintro ⟨rfl, -⟩
        exact ⟨hne, rfl⟩
    · simp [hr, honly ha, hval.symm]
    · simp [hr, honly ha, a.fits]
  · have hna : u ≠ missingText.toList := fun hna => not_denotes_missingText (hna ▸ ha)
    constructor
    · simp [hr, hna]
    · simp [hr, honly ha]
    · simp [hr, ha]
    · simp [hr, honly ha, (sentinel m (Fixed t)).fits]
  · have hunfit {v : Int} (hv : Denotes t.signed u v) : ¬t.Fits v := fun hfits =>
      hnone ⟨v, hfits⟩ hv
    constructor
    · simp [hr, hna]
    · simp only [hr, reduceCtorEq, false_and, exists_false, false_iff, not_and]
      exact fun v hv hfits => absurd hfits (hunfit hv)
    · simp [hr, hnone]
    · simp only [hr, true_iff]
      exact ⟨hna, fun v => hunfit⟩

lemma signed_of_val_neg {a : Fixed t} (h : a.val < 0) : t.signed := by
  have hleast := a.fits.1
  by_contra hsigned
  rw [IntegerType.least, if_neg hsigned] at hleast
  omega

lemma denotes_display {x : Marked m (Fixed t)} (hx : ¬x.isMissing) :
    Denotes t.signed (display x).toList x.raw.val := by
  rw [display, if_neg hx]
  have htext : (Fixed.display x.raw).toList = Decimal.signed x.raw.val := String.toList_ofList
  exact htext ▸ denotes_signed signed_of_val_neg

lemma parse_display (h : m.Suits (.integer t)) (x : Marked m (Fixed t)) :
    parse m (display x) = .ok x := by
  by_cases hx : x.isMissing
  · rw [display, if_pos hx, eq_missing_of_isMissing x hx]
    apply parse_of_missing
    decide
  · have hdenotes := denotes_display hx
    have hparse := isParse_parse h (trim_of_denotes hdenotes)
    have hne : x.raw.val ≠ (sentinel m (Fixed t)).val := fun hval =>
      hx ((isMissing_iff h).mpr (Fixed.ext hval))
    obtain ⟨y, hy, -, hval⟩ := (hparse.present_iff x.raw.val).mpr ⟨hdenotes, x.raw.fits, hne⟩
    have hyx : y = x := congrArg mk (Fixed.ext hval)
    rw [hy, hyx]

theorem parse_iff_denotes (h : m.Suits (.integer t)) :
    (∀ s : String, ∃ u, Text.Trims s.toList u ∧
      IsParse u (parse m s : Result (Marked m (Fixed t)))) ∧
    ∀ x : Marked m (Fixed t), ∃ y, parse m (display x) = .ok y ∧ y.equals x := by
  constructor
  · exact fun s => ⟨_, Text.trims_trim s.toList, isParse_parse h rfl⟩
  · intro x
    refine ⟨x, parse_display h x, ?_⟩
    by_cases hx : x.isMissing
    · simp [equals, hx]
    · simp [equals, equalAndPresent, hx]

theorem parse_iff_denotes_int8 :
    Marker.least.Suits (.integer .int8) ∧
    (∃ x : Marked .least (Fixed .int8), parse .least " +007 " = .ok x ∧ ¬x.isMissing ∧
      x.raw.val = 7) ∧
    (parse .least "-128" : Result (Marked .least (Fixed .int8))) =
      .error (.sentinelCollision "value" (Fixed.display (sentinel .least (Fixed .int8)))) ∧
    ∃ y : Marked .least (Fixed .int8),
      parse .least (display (missing : Marked .least (Fixed .int8))) = .ok y ∧
      y.equals missing := by
  have hsuits : Marker.least.Suits (.integer .int8) := .least _
  obtain ⟨hparse, hdisplay⟩ := parse_iff_denotes hsuits
  refine ⟨hsuits, ?_, ?_, hdisplay missing⟩
  · obtain ⟨u, hu, hread⟩ := hparse " +007 "
    obtain rfl : Text.trim " +007 ".toList = u := Text.trim_eq_of_trims hu
    apply (hread.present_iff 7).mpr
    exact ⟨denotes_plus_iff.mpr ⟨by decide, by decide⟩, by decide, by decide⟩
  · obtain ⟨u, hu, hread⟩ := hparse "-128"
    obtain rfl : Text.trim "-128".toList = u := Text.trim_eq_of_trims hu
    apply hread.collision_iff.mpr
    exact denotes_minus_iff.mpr ⟨by decide, by decide, by decide⟩

end Marked

end Columnar
