import Columnar.Proofs.Table.RoundTrip

/-! Each member is read as a column. Of those of one name only the last is kept, at the place of the
first. -/

namespace Columnar

open Json

namespace Column

variable {v : Json} {c : Column} {depth : Nat}

lemma decodeFrom_congr {shallow deep : Nat} (h : buffers shallow v = buffers deep v) :
    decodeFrom shallow v = decodeFrom deep v := by
  unfold decodeFrom
  rw [h]

lemma buffers_of_decodeFrom (h : decodeFrom depth v = .ok c) : buffers depth v := by
  by_contra hdeep
  unfold decodeFrom at h
  rw [if_neg hdeep] at h
  cases h

lemma decodeFrom_of_decode (h : decode .direct v = .ok c) :
    decodeFrom depth v = if buffers depth v then .ok c else .error .unreadable := by
  by_cases hbuffers : buffers depth v
  · rw [if_pos hbuffers, ← h]
    exact decodeFrom_congr (hbuffers.trans (buffers_of_decodeFrom h).symm)
  · unfold decodeFrom
    rw [if_neg hbuffers, if_neg hbuffers]
    rfl

end Column

namespace Frame

variable {f g : Frame} {m : OrderedMap Column} {e : Error} {s : String}
  {members : List (String × Json)} {columns es : List (String × Column)}

lemma rows_of_head? {first : String × Column} (h : first ∈ f.columns.entries.head?) :
    f.rows = first.2.size := by
  rw [rows, OrderedMap.values]
  cases hes : f.columns.entries with
  | nil =>
    rw [hes] at h
    cases h
  | cons e es =>
    rw [hes] at h
    cases h
    rfl

lemma head?_of_not_admits {c : Column} (h : ¬ f.Admits c) :
    ∃ first ∈ f.columns.entries.head?, first.2.size ≠ c.size ∧
      f.checkSize c = .error (.lengthMismatch "column" first.2.size c.size) := by
  obtain ⟨hne, hsize⟩ := not_or.mp h
  obtain ⟨first, hfirst⟩ := Option.ne_none_iff_exists'.mp (mt List.head?_eq_none_iff.mp hne)
  rw [rows_of_head? hfirst] at hsize
  refine ⟨first, hfirst, Ne.symm hsize, ?_⟩
  rw [checkSize, if_neg (by simpa [OrderedMap.isEmpty] using hne), checkLength,
    rows_of_head? hfirst, if_neg hsize]

lemma run_addColumns_error (hnames : (f.columns.entries ++ es).map Prod.fst |>.Nodup)
    (h : (addColumns es).run f = .error e g) :
    ∃ first ∈ (f.columns.entries ++ es).head?, ∃ other ∈ f.columns.entries ++ es,
      first.2.size ≠ other.2.size ∧ e = .lengthMismatch "column" first.2.size other.2.size := by
  induction es generalizing f with
  | nil => cases h
  | cons column es ih =>
    obtain ⟨name, c⟩ := column
    have hnew : name ∉ f.columns := OrderedMap.not_mem_of_entries (m := ⟨_, hnames⟩) rfl
    rw [addColumns_cons, EStateM.run_bind] at h
    by_cases hadmits : f.Admits c
    · have hadd : (addColumn name c).run f = .ok () ⟨f.columns.push name c hnew⟩ :=
        addColumn_eq_ok_iff.mpr ⟨hnew, hadmits, rfl⟩
      have hentries : (f.columns.push name c hnew).entries ++ es =
          f.columns.entries ++ (name, c) :: es :=
        List.append_assoc f.columns.entries [(name, c)] es
      rw [hadd] at h
      rw [← hentries] at hnames ⊢
      exact ih hnames h
    · obtain ⟨first, hfirst, hne, hsize⟩ := head?_of_not_admits hadmits
      rw [run_addColumn, dif_neg hnew, hsize] at h
      cases h
      refine ⟨first, ?_, (name, c), by simp, hne, rfl⟩
      rw [List.head?_append, hfirst]
      rfl

lemma entries_of_run_addColumns (h : (addColumns es).run f = .ok () g) :
    g.columns.entries = f.columns.entries ++ es := by
  induction es generalizing f with
  | nil =>
    cases h
    exact (List.append_nil _).symm
  | cons column es ih =>
    rw [addColumns_cons, EStateM.run_bind] at h
    split at h
    case h_1 u next hrun =>
      obtain ⟨-, -, hnext⟩ := addColumn_eq_ok_iff.mp hrun
      rw [ih h, hnext, List.append_assoc]
      rfl
    case h_2 => cases h

lemma ofColumns_eq_ok_iff :
    ofColumns m.entries = .ok f ↔ (∃ n, Sized n m.entries) ∧ f.columns = m := by
  constructor
  · intro h
    have hentries : f.columns.entries = m.entries :=
      entries_of_run_addColumns (outcome_eq_ok_iff.mp h)
    have hcolumns : f.columns = m := OrderedMap.eq_of_entries hentries
    have hsized := rectangular_iff.mp (rectangular_ofColumns h)
    rw [hentries] at hsized
    exact ⟨hsized, hcolumns⟩
  · rintro ⟨hsized, rfl⟩
    exact ofColumns_entries (rectangular_iff.mpr hsized)

lemma ofColumns_error (h : ofColumns m.entries = .error e) :
    ∃ first ∈ m.entries.head?, ∃ other ∈ m.entries,
      first.2.size ≠ other.2.size ∧ e = .lengthMismatch "column" first.2.size other.2.size := by
  rw [ofColumns, Change.outcome] at h
  split at h
  case h_1 => cases h
  case h_2 cause rest hrun =>
    cases h
    exact run_addColumns_error (f := ∅) m.nodup hrun

lemma sized_iff_find? {n : Nat} :
    Sized n m.entries ↔ ∀ name c, m.find? name = some c → c.size = n := by
  constructor
  · intro h name c hfind
    obtain ⟨before, after, hentries⟩ := OrderedMap.find?_eq_some_iff.mp hfind
    rw [hentries, sized_append, sized_cons] at h
    exact h.2.1
  · rintro h ⟨name, c⟩ he
    obtain ⟨before, after, hentries⟩ := List.append_of_mem he
    exact h name c (OrderedMap.find?_eq_some_iff.mpr ⟨before, after, hentries⟩)

def Own (members : List (String × Json)) (columns : List (String × Column)) : Prop :=
  List.Forall₂ (fun m column => column.1 = m.1 ∧ decode .direct m.2 = .ok column.2) members columns

/-- Every member fits in the buffer of the object around it. -/
def Shallow (members : List (String × Json)) : Prop := ∀ m ∈ members, buffers (depthLimit - 1) m.2

def lastNamed (columns : List (String × Column)) (name : String) : Option Column :=
  columns.reverse.lookup name

lemma decodeColumns_of_shallow (hown : Own members columns) (h : Shallow members) :
    decodeColumns (named members) = .ok columns := by
  induction hown with
  | nil => rfl
  | @cons m column ms columns hm _ ih =>
    obtain ⟨hname, hcolumn⟩ := hm
    obtain ⟨hshallow, hrest⟩ := List.forall_mem_cons.mp h
    rw [named_cons, decodeColumns, Column.decodeFrom_of_decode hcolumn, if_pos hshallow,
      ih hrest, ← hname]
    rfl

lemma decodeColumns_of_not_shallow (hown : Own members columns) (h : ¬ Shallow members) :
    decodeColumns (named members) = .error .unreadable := by
  induction hown with
  | nil => exact absurd (List.forall_mem_nil _) h
  | @cons m column ms columns hm _ ih =>
    obtain ⟨hname, hcolumn⟩ := hm
    rw [named_cons, decodeColumns, Column.decodeFrom_of_decode hcolumn]
    by_cases hshallow : buffers (depthLimit - 1) m.2
    · have hrest : ¬ Shallow ms := fun hms => h (List.forall_mem_cons.mpr ⟨hshallow, hms⟩)
      rw [if_pos hshallow, ih hrest]
      rfl
    · rw [if_neg hshallow]
      rfl

section Text

variable (hs : Json.read s.toList = (.ofMembers members, true)) (hown : Own members columns)

include hs

lemma ofText_eq : Codec.ofText s =
    (do
      let columns ← decodeColumns (named members)
      accept (ofColumns (OrderedMap.ofList columns).entries) : Decoded Frame) := by
  rw [Codec.ofText, hs]
  change ((do
      let columns ← decodeColumns (named members)
      accept (ofColumns (OrderedMap.ofList columns).entries) : Decoded Frame) >>=
        fun f => pure f) = _
  exact bind_pure _

include hown

lemma ofText_of_shallow (h : Shallow members) :
    Codec.ofText s = accept (ofColumns (OrderedMap.ofList columns).entries) := by
  rw [ofText_eq hs, decodeColumns_of_shallow hown h]
  rfl

lemma ofText_of_not_shallow (h : ¬ Shallow members) :
    Codec.ofText s = (.error .unreadable : Decoded Frame) := by
  rw [ofText_eq hs, decodeColumns_of_not_shallow hown h]
  rfl

lemma ofText_eq_ok_iff (h : Shallow members) : Codec.ofText s = .ok f ↔
    (∃ n, Sized n (OrderedMap.ofList columns).entries) ∧ f.columns = OrderedMap.ofList columns := by
  rw [ofText_of_shallow hs hown h, accept_eq_ok_iff, ofColumns_eq_ok_iff]

lemma ofText_error {cause : Fault} (h : Shallow members)
    (herror : Codec.ofText s = (.error cause : Decoded Frame)) :
    ∃ first ∈ (OrderedMap.ofList columns).entries.head?,
      ∃ other ∈ (OrderedMap.ofList columns).entries,
      first.2.size ≠ other.2.size ∧
        cause = .refused (.lengthMismatch "column" first.2.size other.2.size) := by
  rw [ofText_of_shallow hs hown h] at herror
  cases hmade : ofColumns (OrderedMap.ofList columns).entries with
  | ok f =>
    rw [hmade] at herror
    cases herror
  | error e =>
    rw [hmade] at herror
    cases herror
    obtain ⟨first, hfirst, other, hother, hne, rfl⟩ := ofColumns_error hmade
    exact ⟨first, hfirst, other, hother, hne, rfl⟩

lemma exists_ofText_iff (h : Shallow members) :
    (∃ f : Frame, Codec.ofText s = .ok f) ↔ ∃ n, Sized n (OrderedMap.ofList columns).entries := by
  constructor
  · rintro ⟨f, hf⟩
    exact ((ofText_eq_ok_iff hs hown h).mp hf).1
  · intro hsized
    exact ⟨⟨OrderedMap.ofList columns⟩, (ofText_eq_ok_iff hs hown h).mpr ⟨hsized, rfl⟩⟩

/-- Of a repeated name only the last column counts: those before it are lost, whatever
their lengths. -/
theorem ofText_keeps_last :
    (Shallow members → (columns.map Prod.fst).Nodup →
      ((∃ f : Frame, Codec.ofText s = .ok f) ↔ ∃ n, Sized n columns) ∧
      ∀ f : Frame, Codec.ofText s = .ok f → f.columns.entries = columns) ∧
    (Shallow members →
      ((∃ f : Frame, Codec.ofText s = .ok f) ↔
        ∃ n, ∀ name c, lastNamed columns name = some c → c.size = n) ∧
      (∀ f : Frame, Codec.ofText s = .ok f →
        f.names = (columns.map Prod.fst).eraseDups ∧
        (∀ name, f.column? name = lastNamed columns name) ∧
        (¬ (columns.map Prod.fst).Nodup → f.columnCount < columns.length)) ∧
      ∀ cause, Codec.ofText s = (.error cause : Decoded Frame) →
        ∃ expected found, expected ≠ found ∧
          cause = .refused (.lengthMismatch "column" expected found)) ∧
    (¬ Shallow members → Codec.ofText s = (.error .unreadable : Decoded Frame)) := by
  refine ⟨?distinct, ?repeated, ofText_of_not_shallow hs hown⟩
  case distinct =>
    intro hshallow hnames
    have hentries := OrderedMap.entries_ofList_iff.mpr hnames
    constructor
    · rw [exists_ofText_iff hs hown hshallow, hentries]
    · intro f hf
      obtain ⟨-, hcolumns⟩ := (ofText_eq_ok_iff hs hown hshallow).mp hf
      rw [hcolumns, hentries]
  case repeated =>
    intro hshallow
    refine ⟨?_, ?_, ?_⟩
    · simp only [exists_ofText_iff hs hown hshallow, sized_iff_find?,
        OrderedMap.find?_ofList, lastNamed]
    · intro f hf
      obtain ⟨-, hcolumns⟩ := (ofText_eq_ok_iff hs hown hshallow).mp hf
      rw [names, columnCount, hcolumns]
      refine ⟨OrderedMap.keys_ofList columns, ?_, OrderedMap.size_ofList_lt⟩
      intro name
      rw [column?, hcolumns]
      exact OrderedMap.find?_ofList columns name
    · intro cause hcause
      obtain ⟨first, -, other, -, hne, hfault⟩ := ofText_error hs hown hshallow hcause
      exact ⟨_, _, hne, hfault⟩

end Text

lemma read_encodeColumns (es : List (String × Column))
    (h : ∀ e ∈ es, e.2.dataType.isFloating = false) :
    Json.read (Json.ofMembers (encodeColumns es)).text.toList =
      (.ofMembers (encodeColumns es), true) := by
  apply read_text
  apply Canonical.object
  intro m hm
  obtain ⟨e, he, rfl⟩ := List.mem_map.mp hm
  exact Column.canonical_encode (h e he)

theorem ofText_keeps_last_pair :
    ∃ s members columns, Json.read s.toList = (.ofMembers members, true) ∧ Own members columns ∧
      Shallow members ∧ columns.length = 2 ∧ (columns.map Prod.fst).Nodup ∧
      ∃ f : Frame, Codec.ofText s = .ok f ∧ f.columns.entries = columns := by
  let columns : List (String × Column) :=
    [("a", ⟨.truth, .ofList [true]⟩), ("b", ⟨.truth, .ofList [false]⟩)]
  have hread := read_encodeColumns columns (by simp [columns, DataType.isFloating])
  have hown : Own (encodeColumns columns) columns := .cons ⟨rfl, rfl⟩ (.cons ⟨rfl, rfl⟩ .nil)
  have hshallow : Shallow (encodeColumns columns) :=
    List.forall_mem_cons.mpr ⟨rfl, List.forall_mem_cons.mpr ⟨rfl, List.forall_mem_nil _⟩⟩
  have hsized : Sized 1 columns := sized_cons.mpr ⟨rfl, sized_cons.mpr ⟨rfl, List.forall_mem_nil _⟩⟩
  obtain ⟨hdistinct, -, -⟩ := ofText_keeps_last hread hown
  obtain ⟨hok, hkept⟩ := hdistinct hshallow (by decide)
  obtain ⟨f, hf⟩ := hok.mpr ⟨1, hsized⟩
  exact ⟨_, _, columns, hread, hown, hshallow, rfl, by decide, f, hf, hkept f hf⟩

theorem ofText_repeated_name :
    ∃ f : Frame, Codec.ofText
      "\x7b\"a\":\x7b\"dtype\":\"bool\",\"data\":[true]\x7d,\"a\":\x7b\"dtype\":\"bool\",\"data\":[false]\x7d\x7d" = .ok f ∧
      f.columns.entries = [("a", ⟨.truth, .ofList [false]⟩)] := by
  let columns : List (String × Column) :=
    [("a", ⟨.truth, .ofList [true]⟩), ("a", ⟨.truth, .ofList [false]⟩)]
  have hread := read_encodeColumns columns (by simp [columns, DataType.isFloating])
  have htext : (Json.ofMembers (encodeColumns columns)).text =
      "\x7b\"a\":\x7b\"dtype\":\"bool\",\"data\":[true]\x7d,\"a\":\x7b\"dtype\":\"bool\",\"data\":[false]\x7d\x7d" := by
    decide +kernel
  rw [htext] at hread
  refine ⟨⟨OrderedMap.ofList columns⟩, ?_, rfl⟩
  rw [ofText_eq hread]
  rfl

end Frame

end Columnar
