import Columnar.Annotated.DataVector

namespace Columnar

structure Series (α : Type) [BEq α] where
  name : String
  vector : DataVector α

namespace Series

variable {α : Type} [BEq α]

def ofList (name : String) (data : List α) : Series α := ⟨name, .ofList data⟩

def empty (name : String) : Series α := ⟨name, .empty⟩

def withCapacity [Stored α] (name : String) (n : Nat) : Except OutOfBounds (Series α) := do
  Capacity.checkBuffer α n
  return empty name

def data (s : Series α) : List α := s.vector.data

def size (s : Series α) : Nat := s.vector.size

def isEmpty (s : Series α) : Bool := s.vector.isEmpty

def first? (s : Series α) : Option α := s.data.head?

def last? (s : Series α) : Option α := s.data.getLast?

def head (s : Series α) (n : Nat) : List α := s.data.take n

def tail (s : Series α) (n : Nat) : List α := s.data.drop (s.size - n)

def rename (s : Series α) (name : String) : Series α := { s with name := name }

def push (s : Series α) (a : α) : Series α := { s with vector := s.vector.push a }

def set (s : Series α) (i : Nat) (a : α) : Except OutOfBounds (Series α) :=
  (s.vector.set i a).map fun v => { s with vector := v }

def map {β : Type} [BEq β] (s : Series α) (f : α → β) : Series β := ofList s.name (s.data.map f)

instance : BEq (Series α) := ⟨fun s t => s.name == t.name && s.vector == t.vector⟩

instance [Legible α] : Legible (Series α) where
  display s := s.name ++ ": [" ++ String.intercalate ", " (s.data.map Columnar.display) ++ "]"
  inspect s :=
    inspectRecord "Series" [("name", Columnar.inspect s.name), ("vector", s.vector.inspect)]

variable [Legible α] [Codec α]

def readName : Option String → List (Option String × Json) →
    Json.Decoded (String × List (Option String × Json))
  | none, [] => .error .unreadable
  | some name, [] => .ok (name, [])
  | _, (none, _) :: _ => .error .unreadable
  | seen, (some k, v) :: members => do
    if k = "name" then
      if seen.isSome then throw .unreadable
      let name ← decode .direct v
      readName (some name) members
    else
      unless Json.buffers (Json.depthLimit - 1) v do throw .unreadable
      let (name, rest) ← readName seen members
      return (name, (some k, v) :: rest)

/-- The name stands among the members of the data, which are buffered until all are read. -/
instance : Codec (Series α) where
  encode s := .ofMembers (("name", encode s.name) :: s.vector.members)
  decode
    | _, .object members closed => do
      unless closed do throw .unreadable
      let (name, rest) ← readName none members
      let vector ← decode .buffered (.object rest true)
      return ⟨name, vector⟩
    | _, _ => throw .unreadable

end Series

end Columnar
