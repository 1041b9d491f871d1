import Columnar.Annotated.Labels
import Columnar.Grid.Strided

namespace Columnar

structure DataVector (α : Type) [BEq α] where
  data : List α
  categories : Option (CategorySet α) := none
  labels : Labels α := ∅

namespace DataVector

variable {α : Type} [BEq α]

def ofList (data : List α) : DataVector α := { data := data }

def empty : DataVector α := ofList []

def ofFn [Stored α] (n : Nat) (f : Nat → α) : Except OutOfBounds (DataVector α) := do
  Capacity.checkBuffer α n
  return ofList ((List.range n).map f)

def replicate [Stored α] (n : Nat) (a : α) : Except OutOfBounds (DataVector α) :=
  ofFn n fun _ => a

def blank {α : Type} [Element α] (n : Nat) : Except OutOfBounds (DataVector α) :=
  replicate n Element.filler

def zeros {α : Type} [Number α] [Stored α] (n : Nat) : Except OutOfBounds (DataVector α) :=
  replicate n Number.zero

def ones {α : Type} [Number α] [Stored α] (n : Nat) : Except OutOfBounds (DataVector α) :=
  replicate n Number.one

def withCategories (v : DataVector α) (categories : CategorySet α) : DataVector α :=
  { v with categories := some categories }

def withLabels (v : DataVector α) (labels : Labels α) : DataVector α := { v with labels := labels }

def size (v : DataVector α) : Nat := v.data.length

def isEmpty (v : DataVector α) : Bool := v.data.isEmpty

def push (v : DataVector α) (a : α) : DataVector α := { v with data := v.data ++ [a] }

def set? (v : DataVector α) (i : Nat) (a : α) : Option (DataVector α) :=
  if i < v.size then some { v with data := v.data.set i a } else none

def set (v : DataVector α) (i : Nat) (a : α) : Except OutOfBounds (DataVector α) :=
  (setPosition v.data i a).map fun data => { v with data := data }

def view (v : DataVector α) (shape : List Nat) : Result (Strided α) := Strided.ofData v.data shape

def setCell? (v : DataVector α) (shape index : List Nat) (a : α) :
    Result (Option (DataVector α)) := do
  let view ← v.view shape
  return (view.set? index a).map fun view => { v with data := view.data }

def addCategory (v : DataVector α) (a : α) : Option Bool × DataVector α :=
  (v.categories.map fun s => (s.addNew a).1,
    { v with categories := v.categories.map fun s => s.add a })

def removeCategory (v : DataVector α) (a : α) : Option Bool × DataVector α :=
  (v.categories.map fun s => (s.remove a).1,
    { v with categories := v.categories.map fun s => s.erase a })

instance : BEq (DataVector α) := ⟨fun v w => v.data == w.data⟩

structure Window (α : Type) [BEq α] where
  data : List α
  categories : Option (CategorySet α) := none
  labels : Option (Labels α) := none

def window (v : DataVector α) : Window α := ⟨v.data, v.categories, some v.labels⟩

namespace Window

def ofList (data : List α) : Window α := { data := data }

def size (w : Window α) : Nat := w.data.length

def slice? (w : Window α) (first last : Nat) : Option (Window α) :=
  if first ≤ last ∧ last ≤ w.size then
    some { w with data := (w.data.take last).drop first }
  else none

def view (w : Window α) (shape : List Nat) : Result (Strided α) := Strided.ofData w.data shape

def uncategorized (w : Window α) : List Nat :=
  match w.categories with
  | none => []
  | some s => (w.data.zipIdx.filter fun (a, _) => !s.contains a).map Prod.snd

def nameOf [Legible α] (w : Window α) (a : α) : String :=
  ((w.labels.bind fun l => l.label? a)).getD (display a)

def labelled [Legible α] (w : Window α) : List String := w.data.map w.nameOf

def inspect [Legible α] (w : Window α) : String := "ReadOnlyVector(" ++ inspectList w.data ++ ")"

instance : BEq (Window α) := ⟨fun v w => v.data == w.data⟩

end Window

def uncategorized (v : DataVector α) : List Nat := v.window.uncategorized

def labelled [Legible α] (v : DataVector α) : List String := v.window.labelled

def inspect [Legible α] (v : DataVector α) : String :=
  inspectRecord "Vector"
    [("data", inspectList v.data),
     ("categories", inspectOption (v.categories.map CategorySet.inspect)),
     ("labels", v.labels.inspect)]

structure Parts (α : Type) [BEq α] where
  data : Option (List α) := none
  categories : Option (CategorySet α) := none
  labels : Option (Labels α) := none

def ofParts (p : Parts α) : Result (DataVector α) :=
  match p.data with
  | none => .error (.nullArgument "data")
  | some data => .ok ⟨data, p.categories, p.labels.getD ∅⟩

variable [Legible α] [Codec α]

def members (v : DataVector α) : List (String × Json) :=
  ("data", encode v.data)
    :: (match v.categories with
      | none => []
      | some s => [("categories", encode s)])
    ++ (if v.labels.isEmpty then [] else [("labels", encode v.labels)])

open Json in
def fields : List (RecordField (Parts α)) :=
  [{ name := "data"
     read := fun source v p => do
       return { p with data := ← decodeOption (decode source) v }
     absent := .ok },
   { name := "categories"
     read := fun source v p => do
       return { p with categories := ← decodeOption (decode source) v }
     absent := .ok },
   { name := "labels"
     read := fun source v p => do
       return { p with labels := ← decodeOption (decode source) v }
     absent := .ok }]

instance : Codec (DataVector α) where
  encode v := .ofMembers v.members
  decode source v := do
    let parts ← Json.decodeRecord fields {} source v
    Json.accept (ofParts parts)

end DataVector

end Columnar
