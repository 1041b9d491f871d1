import Columnar.Proofs.Result
import Columnar.Resampling.Resampler
import Mathlib.Data.List.Chain
import Mathlib.Data.List.Forall2
import Mathlib.Tactic.Lemma

/-! What one pass over keys and values finds: `grouped` collects the values of each maximal run of
equal keys, and the rows of `Resampler.runs` are the aggregates of these groups in order. -/

namespace Columnar

namespace Resampled

variable {α : Type} [BEq α]

@[simp]
lemma period_ofRows (rows : List (Timestamp × α)) :
    (Resampled.ofRows rows).period.data = rows.map Prod.fst := rfl

@[simp]
lemma value_ofRows (rows : List (Timestamp × α)) :
    (Resampled.ofRows rows).value.data = rows.map Prod.snd := rfl

@[simp]
lemma rows_ofRows (rows : List (Timestamp × α)) : (Resampled.ofRows rows).rows = rows :=
  (List.zip_of_prod rfl rfl).symm

end Resampled

namespace Resampler

section Groups

variable {κ α β : Type} [DecidableEq κ]

def attach (k : κ) (as : List α) : List (κ × List α) → List (κ × List α)
  | [] => [(k, as)]
  | (l, bs) :: gs => if l = k then (k, as ++ bs) :: gs else (k, as) :: (l, bs) :: gs

def grouped : List (κ × α) → List (κ × List α)
  | [] => []
  | (k, a) :: rest => attach k [a] (grouped rest)

def ungrouped (gs : List (κ × List α)) : List (κ × α) := gs.flatMap fun g => g.2.map (Prod.mk g.1)

lemma exists_attach (k : κ) (as : List α) (gs : List (κ × List α)) :
    ∃ bs hs, attach k as gs = (k, as ++ bs) :: hs := by
  cases gs with
  | nil => exact ⟨[], [], by simp [attach]⟩
  | cons g gs =>
    simp only [attach]
    split
    · exact ⟨g.2, gs, rfl⟩
    · exact ⟨[], g :: gs, by simp⟩

lemma attach_attach (k : κ) (as bs : List α) (gs : List (κ × List α)) :
    attach k as (attach k bs gs) = attach k (as ++ bs) gs := by
  cases gs with
  | nil => simp [attach]
  | cons g gs => by_cases h : g.1 = k <;> simp [attach, h]

lemma attach_attach_of_ne {k l : κ} (h : l ≠ k) (as bs : List α) (gs : List (κ × List α)) :
    attach k as (attach l bs gs) = (k, as) :: attach l bs gs := by
  obtain ⟨cs, hs, he⟩ := exists_attach l bs gs
  rw [he, attach, if_neg h]

lemma ungrouped_attach (k : κ) (as : List α) (gs : List (κ × List α)) :
    ungrouped (attach k as gs) = as.map (Prod.mk k) ++ ungrouped gs := by
  cases gs with
  | nil => simp [attach, ungrouped]
  | cons g gs => by_cases h : g.1 = k <;> simp [attach, ungrouped, h]

lemma ungrouped_grouped (l : List (κ × α)) : ungrouped (grouped l) = l := by
  induction l with
  | nil => rfl
  | cons x rest ih => rw [grouped, ungrouped_attach, ih, List.map_singleton, List.singleton_append]

lemma grouped_append {as : List α} (h : as ≠ []) (k : κ) (l : List (κ × α)) :
    grouped (as.map (Prod.mk k) ++ l) = attach k as (grouped l) := by
  induction as with
  | nil => exact absurd rfl h
  | cons a as ih =>
    cases as with
    | nil => rfl
    | cons b bs =>
      rw [List.map_cons, List.cons_append, grouped, ih (List.cons_ne_nil b bs), attach_attach,
        List.singleton_append]

lemma ne_nil_of_mem_grouped {l : List (κ × α)} {g : κ × List α} (hg : g ∈ grouped l) :
    g.2 ≠ [] := by
  induction l with
  | nil => cases hg
  | cons x rest ih =>
    obtain ⟨k, a⟩ := x
    simp only [grouped] at hg
    cases hr : grouped rest with
    | nil =>
      simp only [hr, attach, List.mem_singleton] at hg
      simp [hg]
    | cons h hs =>
      rw [hr] at hg ih
      simp only [attach] at hg
      split at hg
      · rcases List.mem_cons.mp hg with rfl | hg
        · simp
        · exact ih (List.mem_cons_of_mem _ hg)
      · rcases List.mem_cons.mp hg with rfl | hg
        · simp
        · exact ih hg

lemma map_fst_grouped_sublist (l : List (κ × α)) :
    ((grouped l).map Prod.fst).Sublist (l.map Prod.fst) := by
  induction l with
  | nil => exact .slnil
  | cons x rest ih =>
    obtain ⟨k, a⟩ := x
    simp only [grouped, List.map_cons]
    cases hr : grouped rest with
    | nil => exact .cons_cons k (List.nil_sublist _)
    | cons g gs =>
      rw [hr, List.map_cons] at ih
      simp only [attach]
      split
      case isTrue he =>
        subst he
        exact ih.cons _
      case isFalse => exact ih.cons_cons k

lemma mem_map_fst_grouped_iff {l : List (κ × α)} {k : κ} :
    k ∈ (grouped l).map Prod.fst ↔ k ∈ l.map Prod.fst := by
  constructor
  · exact fun h => (map_fst_grouped_sublist l).subset h
  · intro h
    rw [← ungrouped_grouped l, ungrouped, List.map_flatMap, List.mem_flatMap] at h
    obtain ⟨g, hg, hk⟩ := h
    simp only [List.map_map, Function.comp_def, List.mem_map] at hk
    obtain ⟨a, -, rfl⟩ := hk
    exact List.mem_map_of_mem hg

lemma isChain_grouped (l : List (κ × α)) : (grouped l).IsChain fun g h => g.1 ≠ h.1 := by
  induction l with
  | nil => exact .nil
  | cons x rest ih =>
    obtain ⟨k, a⟩ := x
    simp only [grouped]
    cases hr : grouped rest with
    | nil => exact .singleton _
    | cons h hs =>
      rw [hr] at ih
      simp only [attach]
      split
      case isTrue he =>
        subst he
        cases hs with
        | nil => exact .singleton _
        | cons i is =>
          rw [List.isChain_cons_cons] at ih ⊢
          exact ih
      case isFalse hne => exact .cons_cons (fun he => hne he.symm) ih

lemma map_attach {f : List α → List β} (hf : ∀ as bs, f (as ++ bs) = f as ++ f bs) (k : κ)
    (as : List α) (gs : List (κ × List α)) :
    (attach k as gs).map (Prod.map id f) = attach k (f as) (gs.map (Prod.map id f)) := by
  cases gs with
  | nil => simp [attach]
  | cons g gs =>
    obtain ⟨l, bs⟩ := g
    by_cases h : l = k <;> simp [attach, h, hf]

lemma forall₂_attach {R : List α → List β → Prop}
    (happend : ∀ {as bs cs ds}, R as bs → R cs ds → R (as ++ cs) (bs ++ ds)) (k : κ)
    {as : List α} {bs : List β} (h : R as bs) {gs : List (κ × List α)} {hs : List (κ × List β)}
    (hgs : List.Forall₂ (fun g h => g.1 = h.1 ∧ R g.2 h.2) gs hs) :
    List.Forall₂ (fun g h => g.1 = h.1 ∧ R g.2 h.2) (attach k as gs) (attach k bs hs) := by
  cases hgs with
  | nil => exact .cons ⟨rfl, h⟩ .nil
  | cons hhead hrest =>
    obtain ⟨hkey, hvalues⟩ := hhead
    simp only [attach, hkey]
    split
    · exact .cons ⟨rfl, happend h hvalues⟩ hrest
    · exact .cons ⟨rfl, h⟩ (.cons ⟨rfl, hvalues⟩ hrest)

lemma grouped_map (f : α → β) (l : List (κ × α)) :
    grouped (l.map (Prod.map id f)) = (grouped l).map (Prod.map id (List.map f)) := by
  induction l with
  | nil => rfl
  | cons x rest ih =>
    simp only [List.map_cons, Prod.map, id_eq, grouped]
    rw [map_attach (fun _ _ => List.map_append)]
    exact congrArg _ ih

end Groups

section Loop

variable {ι κ α β : Type} {key : ι → Result κ} {aggregate : List α → Result β}

def keyed (key : ι → Result κ) (xs : List (ι × α)) : List (Result κ × α) := xs.map (Prod.map key id)

def IsRow (aggregate : List α → Result β) (g : Result κ × List α) (row : κ × β) : Prop :=
  g.1 = .ok row.1 ∧ aggregate g.2 = .ok row.2

lemma keyed_fst (key : ι → Result κ) {is : List ι} {as : List α} (h : is.length = as.length) :
    (keyed key (is.zip as)).map Prod.fst = is.map key := by
  calc (keyed key (is.zip as)).map Prod.fst
      = ((is.zip as).map Prod.fst).map key := by simp [keyed, Function.comp_def]
    _ = is.map key := by rw [List.map_fst_zip (by omega)]

lemma keyed_snd (key : ι → Result κ) {is : List ι} {as : List α} (h : is.length = as.length) :
    (keyed key (is.zip as)).map Prod.snd = as := by
  calc (keyed key (is.zip as)).map Prod.snd
      = (is.zip as).map Prod.snd := by simp [keyed, Function.comp_def]
    _ = as := List.map_snd_zip (by omega)

lemma forall₂_isRow_cons_iff {g : Result κ × List α} {gs : List (Result κ × List α)}
    {rows : List (κ × β)} :
    List.Forall₂ (IsRow aggregate) (g :: gs) rows ↔
      ∃ k b rest, g.1 = .ok k ∧ aggregate g.2 = .ok b ∧
        List.Forall₂ (IsRow aggregate) gs rest ∧ rows = (k, b) :: rest := by
  rw [List.forall₂_cons_left_iff]
  constructor
  · rintro ⟨⟨k, b⟩, rest, ⟨hk, hb⟩, hrest, rfl⟩
    exact ⟨k, b, rest, hk, hb, hrest, rfl⟩
  · rintro ⟨k, b, rest, hk, hb, hrest, rfl⟩
    exact ⟨(k, b), rest, ⟨hk, hb⟩, hrest, rfl⟩

lemma exists_rows_iff {gs : List (Result κ × List α)} :
    (∃ rows, List.Forall₂ (IsRow aggregate) gs rows) ↔
      ∀ g ∈ gs, (∃ k, g.1 = .ok k) ∧ ∃ b, aggregate g.2 = .ok b := by
  simp only [exists_forall₂_iff, IsRow, Prod.exists, exists_and_left, exists_and_right]

lemma map_fst_of_isRow {gs : List (Result κ × List α)} {rows : List (κ × β)}
    (h : List.Forall₂ (IsRow aggregate) gs rows) :
    gs.map Prod.fst = (rows.map Prod.fst).map .ok := by
  induction h with
  | nil => rfl
  | cons hrow _ ih => rw [List.map_cons, List.map_cons, List.map_cons, hrow.1, ih]

variable [DecidableEq κ]

lemma not_forall₂_attach_error {e : Error} {as : List α} {gs : List (Result κ × List α)}
    {rows : List (κ × β)} : ¬ List.Forall₂ (IsRow aggregate) (attach (.error e) as gs) rows := by
  obtain ⟨bs, hs, he⟩ := exists_attach (.error e : Result κ) as gs
  rw [he, forall₂_isRow_cons_iff]
  rintro ⟨k, b, rest, hk, -⟩
  cases hk

lemma continueRun_cons {current k : κ} {i : ι} (hkey : key i = .ok k) (bucket : List α) (a : α)
    (xs : List (ι × α)) :
    continueRun key aggregate current bucket ((i, a) :: xs) =
      if k = current then continueRun key aggregate current (a :: bucket) xs
      else do
        let b ← aggregate bucket.reverse
        let rows ← continueRun key aggregate k [a] xs
        return (current, b) :: rows := by
  rw [continueRun, hkey]
  rfl

lemma continueRun_eq_ok_iff {current : κ} {bucket : List α} {xs : List (ι × α)}
    {rows : List (κ × β)} :
    continueRun key aggregate current bucket xs = .ok rows ↔
      List.Forall₂ (IsRow aggregate)
        (attach (.ok current) bucket.reverse (grouped (keyed key xs))) rows := by
  -- the open run goes before the groups of what is still to come
  induction xs generalizing current bucket rows with
  | nil =>
    simp only [continueRun, keyed, List.map_nil, grouped, attach, bind_eq_ok,
      forall₂_isRow_cons_iff, List.forall₂_nil_left_iff]
    constructor
    · rintro ⟨b, hb, h⟩
      cases h
      exact ⟨current, b, [], rfl, hb, rfl, rfl⟩
    · rintro ⟨k, b, rest, hk, hb, rfl, rfl⟩
      cases hk
      exact ⟨b, hb, rfl⟩
  | cons x xs ih =>
    obtain ⟨i, a⟩ := x
    simp only [keyed, List.map_cons, Prod.map, id_eq, grouped] at ih ⊢
    cases hkey : key i with
    | error e =>
      rw [attach_attach_of_ne (by simp), forall₂_isRow_cons_iff, continueRun, hkey]
      constructor
      · intro h
        cases h
      · rintro ⟨k, b, rest, -, -, hrest, -⟩
        exact absurd hrest not_forall₂_attach_error
    | ok k =>
      rw [continueRun_cons hkey]
      split
      case isTrue hk =>
        subst hk
        rw [ih, attach_attach, List.reverse_cons]
      case isFalse hk =>
        have hne : (.ok k : Result κ) ≠ .ok current := fun h => hk (Except.ok.inj h)
        rw [attach_attach_of_ne hne, forall₂_isRow_cons_iff]
        simp only [bind_eq_ok, ih, List.reverse_singleton]
        constructor
        · rintro ⟨b, hb, rest, hrest, h⟩
          cases h
          exact ⟨current, b, rest, rfl, hb, hrest, rfl⟩
        · rintro ⟨l, b, rest, hl, hb, hrest, rfl⟩
          cases hl
          exact ⟨b, hb, rest, hrest, rfl⟩

theorem runs_eq_ok_iff {xs : List (ι × α)} {rows : List (κ × β)} :
    runs key aggregate xs = .ok rows ↔
      List.Forall₂ (IsRow aggregate) (grouped (keyed key xs)) rows := by
  cases xs with
  | nil =>
    simp only [runs, keyed, List.map_nil, grouped, List.forall₂_nil_left_iff]
    constructor
    · intro h
      cases h
      rfl
    · rintro rfl
      rfl
  | cons x xs =>
    obtain ⟨i, a⟩ := x
    simp only [runs, keyed, List.map_cons, Prod.map, id_eq, grouped]
    cases hkey : key i with
    | error e =>
      constructor
      · intro h
        cases h
      · exact fun h => absurd h not_forall₂_attach_error
    | ok k => exact continueRun_eq_ok_iff

def rowOf (aggregate : List α → Result β) (g : Result κ × List α) : Result (κ × β) := do
  let k ← g.1
  let b ← aggregate g.2
  return (k, b)

lemma continueRun_eq_mapM {current : κ} {bucket : List α} {xs : List (ι × α)}
    (hkeys : ∀ x ∈ xs, ∃ k, key x.1 = .ok k) :
    continueRun key aggregate current bucket xs =
      (attach (.ok current) bucket.reverse (grouped (keyed key xs))).mapM (rowOf aggregate) := by
  induction xs generalizing current bucket with
  | nil =>
    simp only [continueRun, keyed, List.map_nil, grouped, attach, List.mapM_cons,
      List.mapM_nil, rowOf]
    cases aggregate bucket.reverse <;> rfl
  | cons x xs ih =>
    obtain ⟨i, a⟩ := x
    obtain ⟨⟨k, hkey⟩, hrest⟩ := List.forall_mem_cons.mp hkeys
    simp only [keyed, List.map_cons, Prod.map, id_eq, grouped] at ih hkey ⊢
    rw [continueRun_cons hkey, hkey]
    split
    case isTrue hk =>
      subst hk
      rw [ih hrest, attach_attach, List.reverse_cons]
    case isFalse hk =>
      have hne : (.ok k : Result κ) ≠ .ok current := fun h => hk (Except.ok.inj h)
      rw [attach_attach_of_ne hne, List.mapM_cons, ih hrest, List.reverse_singleton, rowOf]
      cases aggregate bucket.reverse <;> rfl

lemma runs_eq_mapM {xs : List (ι × α)} (hkeys : ∀ x ∈ xs, ∃ k, key x.1 = .ok k) :
    runs key aggregate xs = (grouped (keyed key xs)).mapM (rowOf aggregate) := by
  cases xs with
  | nil => rfl
  | cons x xs =>
    obtain ⟨i, a⟩ := x
    obtain ⟨⟨k, hkey⟩, hrest⟩ := List.forall_mem_cons.mp hkeys
    simp only at hkey
    simp only [runs, keyed, List.map_cons, Prod.map, id_eq, grouped, hkey]
    exact continueRun_eq_mapM hrest

lemma mem_keys_iff {l : List (Result κ × α)} {rows : List (κ × β)}
    (h : List.Forall₂ (IsRow aggregate) (grouped l) rows) {k : Result κ} :
    k ∈ l.map Prod.fst ↔ ∃ p ∈ rows.map Prod.fst, .ok p = k := by
  rw [← mem_map_fst_grouped_iff, map_fst_of_isRow h, List.mem_map]

lemma continueRun_error {current : κ} {bucket : List α} (hbucket : bucket ≠ []) {xs : List (ι × α)}
    {e : Error} (h : continueRun key aggregate current bucket xs = .error e) :
    (∃ i, key i = .error e) ∨ ∃ as ≠ [], aggregate as = .error e := by
  have hreverse : bucket.reverse ≠ [] := List.reverse_ne_nil_iff.mpr hbucket
  induction xs generalizing current bucket with
  | nil =>
    rcases bind_eq_error.mp h with hrun | ⟨b, -, hpure⟩
    · exact .inr ⟨_, hreverse, hrun⟩
    · cases hpure
  | cons x xs ih =>
    obtain ⟨i, a⟩ := x
    rcases bind_eq_error.mp h with hkey | ⟨k, -, h⟩
    · exact .inl ⟨i, hkey⟩
    · split at h
      · exact ih (List.cons_ne_nil a bucket) h (by simp)
      · rcases bind_eq_error.mp h with hrun | ⟨b, -, h⟩
        · exact .inr ⟨_, hreverse, hrun⟩
        · rcases bind_eq_error.mp h with hrest | ⟨rest, -, hpure⟩
          · exact ih (List.cons_ne_nil a []) hrest (by simp)
          · cases hpure

lemma runs_error {xs : List (ι × α)} {e : Error} (h : runs key aggregate xs = .error e) :
    (∃ i, key i = .error e) ∨ ∃ as ≠ [], aggregate as = .error e := by
  cases xs with
  | nil => cases h
  | cons x xs =>
    rcases bind_eq_error.mp h with hkey | ⟨k, -, h⟩
    · exact .inl ⟨x.1, hkey⟩
    · exact continueRun_error (List.cons_ne_nil x.2 []) h

lemma isChain_periods {l : List (Result κ × α)} {rows : List (κ × β)}
    (h : List.Forall₂ (IsRow aggregate) (grouped l) rows) :
    (rows.map Prod.fst).IsChain (· ≠ ·) := by
  have hchain : ((grouped l).map Prod.fst).IsChain (· ≠ ·) :=
    (List.isChain_map _).mpr (isChain_grouped l)
  rw [map_fst_of_isRow h, List.isChain_map] at hchain
  exact hchain.imp fun _ _ hne he => hne (congrArg _ he)

end Loop

variable {α : Type} [Number α] {r : Resampler} {timestamps : List Timestamp} {values : List α}

theorem resample_eq_ok_iff {out : Resampled α} :
    r.resample timestamps values = .ok out ↔
      timestamps.length = values.length ∧
        ∃ rows, List.Forall₂ (IsRow r.config.method.run)
          (grouped (keyed r.key (timestamps.zip values))) rows ∧ out = .ofRows rows := by
  simp only [resample, bind_eq_ok, checkLength, runs_eq_ok_iff, pure, Except.pure]
  constructor
  · rintro ⟨u, hu, rows, hrows, h⟩
    split at hu
    case isTrue hlen =>
      cases h
      exact ⟨hlen.symm, rows, hrows, rfl⟩
    case isFalse => cases hu
  · rintro ⟨hlen, rows, hrows, rfl⟩
    exact ⟨(), if_pos hlen.symm, rows, hrows, rfl⟩

lemma resample_eq_map (hlen : timestamps.length = values.length) :
    r.resample timestamps values =
      (runs r.key r.config.method.run (timestamps.zip values)).map .ofRows := by
  simp only [resample, checkLength, hlen, if_true]
  cases runs r.key r.config.method.run (timestamps.zip values) <;> rfl

lemma resample_rows (r : Resampler) (xs : List (Timestamp × α)) :
    r.resample (xs.map Prod.fst) (xs.map Prod.snd) =
      (runs r.key r.config.method.run xs).map .ofRows := by
  have hzip : (xs.map Prod.fst).zip (xs.map Prod.snd) = xs := (List.zip_of_prod rfl rfl).symm
  rw [resample_eq_map (by simp), hzip]

end Resampler

end Columnar
