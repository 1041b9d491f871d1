import Columnar.Element
import Columnar.Grid.Shape

namespace Columnar

structure Strided (α : Type) where
  data : List α
  shape : List Nat
  strides : List Nat
  layout : Layout

namespace Strided

variable {α : Type}

def ofParts (data : List α) (shape : List Nat) (layout : Layout) : Strided α where
  data := data
  shape := shape
  strides := Shape.strides shape layout
  layout := layout

def withLayout (data : List α) (shape : List Nat) (layout : Layout) : Result (Strided α) := do
  Shape.check "buffer" shape data.length
  return ofParts data shape layout

def ofData (data : List α) (shape : List Nat) : Result (Strided α) :=
  withLayout data shape .rowMajor

def ofFn [Stored α] (shape : List Nat) (f : Nat → α) :
    Result (Except OutOfBounds (Strided α)) := do
  let n ← Shape.count shape
  return do
    Capacity.checkBuffer α n
    return ofParts ((List.range n).map f) shape .rowMajor

def replicate [Stored α] (shape : List Nat) (a : α) : Result (Except OutOfBounds (Strided α)) :=
  ofFn shape fun _ => a

def blank [Element α] (shape : List Nat) : Result (Except OutOfBounds (Strided α)) :=
  replicate shape Element.filler

def joinRows (count columns : Nat) : List (List α) → Result (List α)
  | [] => .ok []
  | row :: rows => do
    if row.length ≠ columns then
      throw (.shapeMismatch "rows" [count, columns] columns row.length)
    let rest ← joinRows count columns rows
    return row ++ rest

def width : List (List α) → Nat
  | [] => 0
  | row :: _ => row.length

/-- Room for the cells is made before the rows are compared. -/
def ofRows [Stored α] (rows : List (List α)) : Except OutOfBounds (Result (Strided α)) := do
  let columns := width rows
  let n ← Shape.area .product rows.length columns
  Capacity.checkBuffer α n
  return do
    let data ← joinRows rows.length columns rows
    return ofParts data [rows.length, columns] .rowMajor

/-- Nested arrays are flattened level by level. Arrays of size zero can be more than a
word counts. -/
def ofNested2 {r c : Nat} (a : Vector (Vector α c) r) : Except OutOfBounds (Strided α) := do
  let _ ← Shape.area .slice r c
  return ofParts a.flatten.toList [r, c] .rowMajor

def ofNested3 {p r c : Nat} (a : Vector (Vector (Vector α c) r) p) :
    Except OutOfBounds (Strided α) := do
  let rows ← Shape.area .slice p r
  let _ ← Shape.area .slice rows c
  return ofParts a.flatten.flatten.toList [p, r, c] .rowMajor

def ofNested4 {q p r c : Nat} (a : Vector (Vector (Vector (Vector α c) r) p) q) :
    Except OutOfBounds (Strided α) := do
  let planes ← Shape.area .slice q p
  let rows ← Shape.area .slice planes r
  let _ ← Shape.area .slice rows c
  return ofParts a.flatten.flatten.flatten.toList [q, p, r, c] .rowMajor

def rank (v : Strided α) : Nat := v.shape.length

def size (v : Strided α) : Nat := v.data.length

def isEmpty (v : Strided α) : Bool := v.size == 0

def offset? (v : Strided α) (index : List Nat) : Option Nat :=
  Shape.offset? v.shape v.strides index

def get? (v : Strided α) (index : List Nat) : Option α := do
  let offset ← v.offset? index
  v.data[offset]?

def get (v : Strided α) (index : List Nat) : Except OutOfBounds α :=
  match v.get? index with
  | some a => .ok a
  | none => .error (.cell index v.shape)

def setPlace (v : Strided α) (i : Nat) (a : α) : Except OutOfBounds (Strided α) :=
  (setPosition v.data i a).map fun data => { v with data := data }

def set? (v : Strided α) (index : List Nat) (a : α) : Option (Strided α) := do
  let offset ← v.offset? index
  (v.setPlace offset a).toOption

def set (v : Strided α) (index : List Nat) (a : α) : Except OutOfBounds (Strided α) :=
  match v.offset? index with
  | some offset => v.setPlace offset a
  | none => .error (.cell index v.shape)

def reshape (v : Strided α) (shape : List Nat) (layout : Layout) : Result (Strided α) :=
  withLayout v.data shape layout

def fill (v : Strided α) (a : α) : Strided α := { v with data := v.data.map fun _ => a }

def span (v : Strided α) : Strided α := ⟨v.data, v.shape, v.strides, v.layout⟩

/-- `cell?` passes over an index out of bounds, `cell` and `place` refuse one. -/
inductive Write (α : Type) where
  | cell? (index : List Nat) (a : α)
  | cell (index : List Nat) (a : α)
  | place (i : Nat) (a : α)
  | fill (a : α)
  | span (write : Write α)

abbrev Change (α : Type) := EStateM OutOfBounds (Strided α)

def Write.perform : Write α → Change α Bool
  | .cell? index a => do
    let v : Strided α ← MonadState.get
    match v.set? index a with
    | some u =>
      MonadState.set u
      return true
    | none => return false
  | .cell index a => do
    let v : Strided α ← MonadState.get
    let u ← ofExcept (v.set index a)
    MonadState.set u
    return true
  | .place i a => do
    let v : Strided α ← MonadState.get
    let u ← ofExcept (v.setPlace i a)
    MonadState.set u
    return true
  | .fill a => do
    modify fun v => v.fill a
    return true
  | .span write => fun v =>
    match write.perform v.span with
    | .ok found s => .ok found { v with data := s.data }
    | .error e s => .error e { v with data := s.data }

instance [BEq α] : BEq (Strided α) where
  beq v w := v.data == w.data && v.shape == w.shape && v.strides == w.strides
    && decide (v.layout = w.layout)

def inspect [Legible α] (v : Strided α) : String :=
  inspectRecord "StridedView"
    [("storage", inspectList v.data), ("shape", Decimal.listed v.shape),
     ("strides", Decimal.listed v.strides), ("layout", v.layout.inspect)]

structure Parts (α : Type) where
  shape : Option (List Nat) := none
  layout : Layout := .default
  data : Option (List α) := none

open Json in
def fields [Codec α] : List (RecordField (Parts α)) :=
  [{ name := "shape"
     read := fun source v p => do
       return { p with shape := some (← decodeList (decodeSize source) v) } },
   { name := "layout"
     read := fun source v p => do return { p with layout := ← decode source v }
     absent := .ok
     cut := .ok },
   { name := "data"
     read := fun source v p => do return { p with data := some (← decode source v) } }]

instance [Codec α] : Codec (Strided α) where
  encode v :=
    .ofMembers [("shape", .ofList (v.shape.map fun (n : Nat) => .ofInt n)),
      ("layout", encode v.layout), ("data", encode v.data)]
  decode source v := do
    let parts ← Json.decodeRecord fields {} source v
    match parts.shape, parts.data with
    | some shape, some data => Json.accept (withLayout data shape parts.layout)
    | _, _ => throw .unreadable

end Strided

end Columnar
