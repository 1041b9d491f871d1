import Columnar.Annotated.Series
import Columnar.OrderedMap
import Columnar.Table.Column

namespace Columnar

structure Frame where
  columns : OrderedMap Column

namespace Frame

def empty : Frame := ⟨∅⟩

instance : EmptyCollection Frame := ⟨empty⟩

def withCapacity (n : Nat) : Except OutOfBounds Frame := do
  Capacity.checkTable n
  return empty

def rows (f : Frame) : Nat :=
  match f.columns.values with
  | [] => 0
  | c :: _ => c.size

def isEmpty (f : Frame) : Bool := f.rows == 0

def columnCount (f : Frame) : Nat := f.columns.size

def names (f : Frame) : List String := f.columns.keys

def types (f : Frame) : List (String × DataType) :=
  f.columns.entries.map fun (name, c) => (name, c.dataType)

def hasColumn (f : Frame) (name : String) : Bool := name ∈ f.columns

def column? (f : Frame) (name : String) : Option Column := f.columns.find? name

def column (f : Frame) (name : String) : Result Column :=
  match f.column? name with
  | some c => .ok c
  | none => .error (.keyNotFound name)

def vector (f : Frame) (t : DataType) (name : String) : Result (DataVector t.Carrier) := do
  let c ← f.column name
  c.as t

def series (f : Frame) (t : DataType) (name : String) : Result (Series t.Carrier) := do
  let v ← f.vector t name
  return ⟨name, v⟩

abbrev Change := EStateM Error Frame

def Change.outcome {α : Type} (change : Change α) (f : Frame) : Result Frame :=
  match change.run f with
  | .ok _ g => .ok g
  | .error e _ => .error e

def columnExists (name : String) : Error := .invalidData (.columnExists name)

def checkSize (f : Frame) (c : Column) : Result Unit :=
  if f.columns.isEmpty then .ok () else checkLength "column" f.rows c.size

def addColumn (name : String) (c : Column) : Change Unit := do
  let f ← get
  if h : name ∈ f.columns then throw (columnExists name)
  else do
    ofExcept (f.checkSize c)
    set (⟨f.columns.push name c h⟩ : Frame)

def addSeries (t : DataType) (s : Series t.Carrier) : Change Unit := addColumn s.name ⟨t, s.vector⟩

def checkReplacement (f : Frame) (name : String) (c : Column) : Result Unit :=
  if f.columnCount = 1 ∧ name ∈ f.columns then .ok () else f.checkSize c

def setColumn (name : String) (c : Column) : Change Unit := do
  let f ← get
  ofExcept (f.checkReplacement name c)
  set (⟨f.columns.insert name c⟩ : Frame)

def dropColumn (name : String) : Change Column := do
  let f ← get
  let c ← ofExcept (f.column name)
  set (⟨f.columns.erase name⟩ : Frame)
  return c

def renameColumn (old new : String) : Change Unit := do
  let f ← get
  match f.columns.indexOf? old with
  | none => throw (.keyNotFound old)
  | some place =>
    if h : new ∈ f.columns then throw (columnExists new)
    else if let some c := f.column? old then
      let rest := f.columns.erase old
      set (⟨rest.insertAt place new c (OrderedMap.not_mem_erase h old)⟩ : Frame)

/-- The edit may leave the column with any length. -/
def editColumn (t : DataType) (name : String)
    (edit : DataVector t.Carrier → DataVector t.Carrier) : Change Unit := do
  let f ← get
  let v ← ofExcept (f.vector t name)
  set (⟨f.columns.insert name ⟨t, edit v⟩⟩ : Frame)

def clear : Change Unit := set empty

def addColumns (columns : List (String × Column)) : Change Unit :=
  columns.forM fun (name, c) => addColumn name c

def ofColumns (columns : List (String × Column)) : Result Frame :=
  (addColumns columns).outcome empty

def select (f : Frame) (names : List String) : Result Frame := do
  let columns ← names.mapM fun name => do return (name, ← f.column name)
  return ⟨.ofList columns⟩

def concat (f g : Frame) : Result Frame := (addColumns g.columns.entries).outcome f

instance : BEq Frame := ⟨fun f g => f.columns.sameEntries (· == ·) g.columns⟩

def inspect (f : Frame) : String :=
  inspectRecord "DataFrame"
    [("columns", inspectMap (f.columns.entries.map fun (name, c) =>
      (Columnar.inspect name, c.inspect)))]

open Json

def decodeColumns : List (Option String × Json) → Decoded (List (String × Column))
  | [] => .ok []
  | (none, _) :: _ => .error .unreadable
  | (some name, v) :: members => do
    let c ← Column.decodeFrom (depthLimit - 1) v
    let rest ← decodeColumns members
    return (name, c) :: rest

/-- A name that occurs again replaces the column that it had, and only then are the lengths
checked. -/
instance : Codec Frame where
  encode f := .ofMembers (f.columns.entries.map fun (name, c) => (name, encode c))
  decode
    | _, .object members closed => do
      let columns ← decodeColumns members
      unless closed do throw .unreadable
      accept (ofColumns (OrderedMap.ofList columns).entries)
    | _, _ => throw .unreadable

end Frame

end Columnar
