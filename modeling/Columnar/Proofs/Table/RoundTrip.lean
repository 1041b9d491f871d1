import Columnar.Proofs.Annotated.RoundTrip
import Columnar.Proofs.Json.Scalars
import Columnar.Proofs.Table.Rectangular

/-! Data are buffered before they are read, and a buffer has no integers of 128 bits. -/

namespace Columnar

open Json

namespace DataType

def isFloating : DataType → Bool
  | number .binary32 | number .binary64 | missingFloat32 | missingFloat64 => true
  | _ => false

def isWide : DataType → Bool
  | number (.integer t) => t.width = .w128
  | _ => false

variable {t : DataType}

lemma scalar_carrier (hfloating : t.isFloating = false) (hwide : t.isWide = false) (a : t.Carrier) :
    Scalar a := by
  cases t with
  | number t =>
    cases t with
    | integer t => exact scalar_fixed (of_decide_eq_false hwide) a
    | binary32 | binary64 => cases hfloating
  | instant => exact scalar_timestamp a
  | truth => exact scalar_bool a
  | character => exact scalar_char a
  | string => exact scalar_string a
  | missingInt64 => exact scalar_marked (by decide) a
  | missingInt32 => exact scalar_marked (by decide) a
  | missingFloat64 => cases hfloating
  | missingFloat32 => cases hfloating

lemma exists_wide (h : t.isWide) :
    ∃ i : IntegerType, t = number (.integer i) ∧ i.width = .w128 := by
  cases t with
  | number t =>
    cases t with
    | integer t => exact ⟨t, rfl, of_decide_eq_true h⟩
    | binary32 | binary64 => cases h
  | _ => cases h

lemma canonical_carrier (hfloating : t.isFloating = false) (a : t.Carrier) :
    (encode a).Canonical := by
  cases hwide : t.isWide with
  | false => exact (scalar_carrier hfloating hwide a).canonical
  | true =>
    obtain ⟨i, rfl, -⟩ := exists_wide hwide
    exact .number a.val

lemma decode_carrier_wide (hwide : t.isWide) (a : t.Carrier) :
    decode .buffered (encode a) = (.error .unreadable : Decoded t.Carrier) := by
  obtain ⟨i, rfl, hi⟩ := exists_wide hwide
  exact decode_wide hi a

lemma lookup_label (t : DataType) : names.lookup t.label = some t := by
  rcases t with (⟨_ | _, _ | _ | _ | _ | _⟩ | _ | _) | _ | _ | _ | _ | _ | _ | _ | _
  all_goals decide +kernel

lemma decode_encode (t : DataType) : decode .direct (encode t) = (.ok t : Decoded DataType) := by
  change decodeName.find names t.label = .ok t
  rw [decodeName.find, lookup_label]

end DataType

section Narrow

variable {t : DataType} {v : DataVector t.Carrier}

def DataVector.Narrow (v : DataVector t.Carrier) : Prop := t.isWide = false ∨ v.values = []

lemma DataVector.scalar_of_narrow (hfloating : t.isFloating = false) (h : v.Narrow) :
    ∀ a ∈ v.values, Scalar a := by
  intro a ha
  rcases h with hwide | hnone
  · exact DataType.scalar_carrier hfloating hwide a
  · rw [hnone] at ha
    cases ha

lemma DataVector.wide_of_not_narrow (h : ¬ v.Narrow) : t.isWide ∧ v.values ≠ [] := by
  rw [Narrow, not_or, Bool.not_eq_false] at h
  exact h

end Narrow

namespace Series

variable {t : DataType} {s : Series t.Carrier} {members : List (String × Json)} {name : String}

lemma readName_eq_ok (hnames : ∀ m ∈ members, m.1 ≠ "name")
    (hbuffers : ∀ m ∈ members, buffers (depthLimit - 1) m.2) :
    readName (some name) (named members) = .ok (name, named members) := by
  induction members with
  | nil => rfl
  | cons m ms ih =>
    obtain ⟨hm, hms⟩ := List.forall_mem_cons.mp hnames
    obtain ⟨hbuffer, hrest⟩ := List.forall_mem_cons.mp hbuffers
    rw [named_cons, readName, if_neg hm, if_pos hbuffer, ih hms hrest]
    rfl

lemma readName_cases (name : String) (hnames : ∀ m ∈ members, m.1 ≠ "name") :
    readName (some name) (named members) = .ok (name, named members) ∨
      readName (some name) (named members) = .error .unreadable := by
  induction members with
  | nil => exact .inl rfl
  | cons m ms ih =>
    obtain ⟨hm, hms⟩ := List.forall_mem_cons.mp hnames
    rw [named_cons, readName, if_neg hm]
    by_cases hbuffer : buffers (depthLimit - 1) m.2
    · rw [if_pos hbuffer]
      rcases ih hms with hrest | hrest
      · rw [hrest]
        exact .inl rfl
      · rw [hrest]
        exact .inr rfl
    · rw [if_neg hbuffer]
      exact .inr rfl

lemma decode_encode : decode .direct (encode s) =
    (do
      let (name, rest) ← (readName (some s.name) (named s.vector.members))
      let vector ← decode .buffered (.object rest true)
      return ⟨name, vector⟩ : Decoded (Series t.Carrier)) := by
  change (do
      let (name, rest) ← readName none ((some "name", encode s.name) :: named s.vector.members)
      let vector ← decode .buffered (.object rest true)
      return ⟨name, vector⟩ : Decoded (Series t.Carrier)) = _
  rw [readName, if_pos rfl]
  rfl

lemma canonical_encode (hfloating : t.isFloating = false) (s : Series t.Carrier) :
    (encode s).Canonical := by
  apply Canonical.object
  rw [List.forall_mem_cons]
  exact ⟨.string s.name,
    DataVector.canonical_members fun a _ => DataType.canonical_carrier hfloating a⟩

lemma decode_of_narrow (hfloating : t.isFloating = false) (hnarrow : s.vector.Narrow) :
    decode .direct (encode s) = (.ok s : Decoded (Series t.Carrier)) := by
  have h := DataVector.scalar_of_narrow hfloating hnarrow
  have hvector := DataVector.decode_members_eq_ok fun a ha => (h a ha).decode .buffered
  have hbuffers : ∀ m ∈ s.vector.members, buffers (depthLimit - 1) m.2 :=
    DataVector.buffers_members fun a ha => (h a ha).buffers
  rw [decode_encode, readName_eq_ok (DataVector.name_ne_of_mem_members (by decide)) hbuffers]
  change (decode .buffered (.ofMembers s.vector.members) >>=
    fun vector => pure (Series.mk s.name vector)) = _
  rw [hvector]
  rfl

lemma decode_of_not_narrow (h : ¬ s.vector.Narrow) :
    decode .direct (encode s) = (.error .unreadable : Decoded (Series t.Carrier)) := by
  obtain ⟨hwide, hne⟩ := DataVector.wide_of_not_narrow h
  have hvector := DataVector.decode_members_eq_error hne (DataType.decode_carrier_wide hwide)
  have hnames : ∀ m ∈ s.vector.members, m.1 ≠ "name" :=
    DataVector.name_ne_of_mem_members (by decide)
  rw [decode_encode]
  rcases readName_cases s.name hnames with hname | hname
  · rw [hname]
    change (decode .buffered (.ofMembers s.vector.members) >>=
      fun vector => pure (Series.mk s.name vector)) = _
    rw [hvector]
    rfl
  · rw [hname]
    rfl

end Series

namespace Column

variable {c : Column} {t : DataType} {members : List (String × Json)} {depth : Nat}

lemma splitType_members (hnames : ∀ m ∈ members, m.1 ≠ typeKey) :
    splitType (named members) = .ok (none, named members) := by
  induction members with
  | nil => rfl
  | cons m ms ih =>
    obtain ⟨hm, hms⟩ := List.forall_mem_cons.mp hnames
    rw [named_cons, splitType, if_neg (by simpa using hm), ih hms]
    rfl

lemma splitType_typed (hnames : ∀ m ∈ members, m.1 ≠ typeKey) :
    splitType (named ((typeKey, encode t) :: members)) = .ok (some t, named members) := by
  have htype : splitType.decodeType (encode t) = .ok t := DataType.decode_encode t
  rw [named_cons, splitType, if_pos rfl, htype, splitType_members hnames]
  rfl

lemma encode_eq (c : Column) :
    encode c = .object (named ((typeKey, encode c.dataType) :: c.vector.members)) true := rfl

lemma decodeFrom_of_buffers (h : buffers depth (encode c)) : decodeFrom depth (encode c) =
    (decode .buffered (.ofMembers c.vector.members) >>=
      fun v => pure (Column.mk c.dataType v)) := by
  rw [encode_eq] at h ⊢
  rw [decodeFrom, if_pos h]
  simp only [splitType_typed (DataVector.name_ne_of_mem_members (by decide))]
  rfl

lemma decodeFrom_of_not_buffers (h : ¬ buffers depth (encode c)) :
    decodeFrom depth (encode c) = .error .unreadable := by
  rw [encode_eq] at h ⊢
  rw [decodeFrom, if_neg h]
  rfl

lemma canonical_encode (hfloating : c.dataType.isFloating = false) : (encode c).Canonical := by
  apply Canonical.object
  rw [List.forall_mem_cons]
  exact ⟨.string c.dataType.label,
    DataVector.canonical_members fun a _ => DataType.canonical_carrier hfloating a⟩

lemma decodeFrom_of_narrow (hfloating : c.dataType.isFloating = false) (hnarrow : c.vector.Narrow) :
    decodeFrom (depth + 3) (encode c) = .ok c := by
  have h := DataVector.scalar_of_narrow hfloating hnarrow
  have hvector := DataVector.decode_members_eq_ok fun a ha => (h a ha).decode .buffered
  have hbuffers : buffers (depth + 3) (encode c) := by
    apply buffers_ofMembers
    rw [List.forall_mem_cons]
    exact ⟨rfl, DataVector.buffers_members fun a ha => (h a ha).buffers⟩
  rw [decodeFrom_of_buffers hbuffers, hvector]
  rfl

lemma decodeFrom_of_not_narrow (h : ¬ c.vector.Narrow) :
    decodeFrom depth (encode c) = .error .unreadable := by
  obtain ⟨hwide, hne⟩ := DataVector.wide_of_not_narrow h
  have hvector := DataVector.decode_members_eq_error hne (DataType.decode_carrier_wide hwide)
  by_cases hbuffers : buffers depth (encode c)
  · rw [decodeFrom_of_buffers hbuffers, hvector]
    rfl
  · exact decodeFrom_of_not_buffers hbuffers

end Column

namespace Frame

variable {f g : Frame} {es : List (String × Column)}

def encodeColumns (es : List (String × Column)) : List (String × Json) :=
  es.map fun (name, c) => (name, encode c)

lemma encodeColumns_cons (e : String × Column) (es : List (String × Column)) :
    encodeColumns (e :: es) = (e.1, encode e.2) :: encodeColumns es := rfl

lemma decodeColumns_eq_ok
    (h : ∀ e ∈ es, Column.decodeFrom (depthLimit - 1) (encode e.2) = .ok e.2) :
    decodeColumns (named (encodeColumns es)) = .ok es := by
  induction es with
  | nil => rfl
  | cons e es ih =>
    obtain ⟨he, hes⟩ := List.forall_mem_cons.mp h
    rw [encodeColumns_cons, named_cons, decodeColumns, he, ih hes]
    rfl

lemma decodeColumns_eq_error
    (h : ∀ e ∈ es, Column.decodeFrom (depthLimit - 1) (encode e.2) = .ok e.2 ∨
      Column.decodeFrom (depthLimit - 1) (encode e.2) = .error .unreadable)
    (hone : ∃ e ∈ es, Column.decodeFrom (depthLimit - 1) (encode e.2) = .error .unreadable) :
    decodeColumns (named (encodeColumns es)) = .error .unreadable := by
  induction es with
  | nil =>
    obtain ⟨e, he, -⟩ := hone
    cases he
  | cons e es ih =>
    obtain ⟨he, hes⟩ := List.forall_mem_cons.mp h
    rw [encodeColumns_cons, named_cons, decodeColumns]
    rcases he with he | he
    · obtain ⟨wide, hmem, hwide⟩ := hone
      rcases List.mem_cons.mp hmem with rfl | hmem
      · rw [hwide]
        rfl
      · rw [he, ih hes ⟨wide, hmem, hwide⟩]
        rfl
    · rw [he]
      rfl

lemma run_addColumns (hf : f.Rectangular) (h : f.columns.entries = g.columns.entries ++ es) :
    (addColumns es).run g = .ok () f := by
  induction es generalizing g with
  | nil =>
    rw [List.append_nil] at h
    rw [eq_of_columns (OrderedMap.eq_of_entries h)]
    rfl
  | cons e es ih =>
    obtain ⟨name, c⟩ := e
    have hnew := OrderedMap.not_mem_of_entries h
    have hadmits : g.Admits c := by
      obtain ⟨n, hn⟩ := rectangular_iff.mp hf
      rw [h, sized_append, sized_cons] at hn
      by_cases hempty : g.columns.entries = []
      · exact .inl hempty
      · exact .inr (hn.2.1.trans (rows_of_sized hn.1 hempty).symm)
    have hadd : (addColumn name c).run g = .ok () ⟨g.columns.push name c hnew⟩ :=
      addColumn_eq_ok_iff.mpr ⟨hnew, hadmits, rfl⟩
    rw [addColumns_cons, EStateM.run_bind, hadd]
    apply ih
    rw [h]
    exact (List.append_assoc g.columns.entries [(name, c)] es).symm

lemma ofColumns_entries (hf : f.Rectangular) : ofColumns f.columns.entries = .ok f :=
  outcome_eq_ok_iff.mpr (run_addColumns hf (List.nil_append _).symm)

lemma decode_encode : decode .direct (encode f) =
    (do
      let columns ← decodeColumns (named (encodeColumns f.columns.entries))
      accept (ofColumns (OrderedMap.ofList columns).entries) : Decoded Frame) := rfl

section Columns

variable (hfloating : ∀ c ∈ f.columns.values, c.dataType.isFloating = false)

include hfloating

lemma canonical_encode : (encode f).Canonical := by
  apply Canonical.object
  intro m hm
  obtain ⟨e, he, rfl⟩ := List.mem_map.mp hm
  exact Column.canonical_encode (hfloating e.2 (List.mem_map_of_mem he))

lemma decode_of_narrow (hf : f.Rectangular) (hnarrow : ∀ c ∈ f.columns.values, c.vector.Narrow) :
    decode .direct (encode f) = .ok f := by
  have hcolumns : decodeColumns (named (encodeColumns f.columns.entries)) =
      .ok f.columns.entries := by
    apply decodeColumns_eq_ok
    intro e he
    have hmem : e.2 ∈ f.columns.values := List.mem_map_of_mem he
    exact Column.decodeFrom_of_narrow (hfloating e.2 hmem) (hnarrow e.2 hmem)
  rw [decode_encode, hcolumns]
  change accept (ofColumns (OrderedMap.ofList f.columns.entries).entries) = .ok f
  rw [OrderedMap.ofList_entries]
  exact accept_eq_ok_iff.mpr (ofColumns_entries hf)

lemma decode_of_not_narrow (hwide : ∃ c ∈ f.columns.values, ¬ c.vector.Narrow) :
    decode .direct (encode f) = (.error .unreadable : Decoded Frame) := by
  have hcolumns : decodeColumns (named (encodeColumns f.columns.entries)) = .error .unreadable := by
    apply decodeColumns_eq_error
    · intro e he
      by_cases hnarrow : e.2.vector.Narrow
      · exact .inl (Column.decodeFrom_of_narrow (hfloating e.2 (List.mem_map_of_mem he)) hnarrow)
      · exact .inr (Column.decodeFrom_of_not_narrow hnarrow)
    · obtain ⟨c, hc, hnarrow⟩ := hwide
      obtain ⟨e, he, rfl⟩ := List.mem_map.mp hc
      exact ⟨e, he, Column.decodeFrom_of_not_narrow hnarrow⟩
  rw [decode_encode, hcolumns]
  rfl

end Columns

end Frame

open Codec

/-- A series, a column or a rectangular frame without floating-point numbers is read back from its
text as it was, annotations and order included, if there is no integer of 128 bits in it, and is not
read at all if there is. -/
theorem text_read_back {t : DataType} (s : Series t.Carrier) (c : Column) (f : Frame) :
    (t.isFloating = false →
      (s.vector.Narrow → ofText (toText s) = (.ok s : Decoded (Series t.Carrier))) ∧
      (¬ s.vector.Narrow → ofText (toText s) = (.error .unreadable : Decoded (Series t.Carrier)))) ∧
    (c.dataType.isFloating = false →
      (c.vector.Narrow → ofText (toText c) = .ok c) ∧
      (¬ c.vector.Narrow → ofText (toText c) = (.error .unreadable : Decoded Column))) ∧
    (f.Rectangular → (∀ c ∈ f.columns.values, c.dataType.isFloating = false) →
      ((∀ c ∈ f.columns.values, c.vector.Narrow) → ofText (toText f) = .ok f) ∧
      ((∃ c ∈ f.columns.values, ¬ c.vector.Narrow) →
        ofText (toText f) = (.error .unreadable : Decoded Frame))) := by
  refine ⟨?_, ?_, ?_⟩
  · intro hfloating
    rw [ofText_toText (Series.canonical_encode hfloating s)]
    exact ⟨Series.decode_of_narrow hfloating, Series.decode_of_not_narrow⟩
  · intro hfloating
    rw [ofText_toText (Column.canonical_encode hfloating)]
    exact ⟨Column.decodeFrom_of_narrow hfloating, Column.decodeFrom_of_not_narrow⟩
  · intro hf hfloating
    rw [ofText_toText (Frame.canonical_encode hfloating)]
    exact ⟨Frame.decode_of_narrow hfloating hf, Frame.decode_of_not_narrow hfloating⟩

theorem wide_column_unreadable :
    ∃ c : Column, c = ⟨.number (.integer .int128), .ofList [Fixed.one]⟩ ∧
      c.dataType.isFloating = false ∧
      toText c = "\x7b\"dtype\":\"int128\",\"data\":[1]\x7d" ∧
      ofText (toText c) = (.error .unreadable : Decoded Column) := by
  have hread := ofText_toText
    (Column.canonical_encode (c := ⟨.number (.integer .int128), .ofList [Fixed.one]⟩) rfl)
  refine ⟨_, rfl, rfl, ?_, ?_⟩
  · change String.ofList (render (.ofMembers
      [("dtype", .ofString (DataType.label (.number (.integer .int128)))),
        ("data", .ofList [.ofInt 1])])) = _
    decide +kernel
  · rw [hread]
    apply Column.decodeFrom_of_not_narrow
    rintro (hwide | hnone)
    · cases hwide
    · cases hnone

end Columnar
