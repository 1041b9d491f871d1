import Columnar.Annotated.DataVector
import Columnar.Table.DataType

namespace Columnar

structure Column where
  dataType : DataType
  vector : DataVector dataType.Carrier

namespace Column

def size (c : Column) : Nat := c.vector.size

def isEmpty (c : Column) : Bool := c.size == 0

def labelled (c : Column) : List String := c.vector.labelled

def as? (t : DataType) (c : Column) : Option (DataVector t.Carrier) :=
  if h : c.dataType = t then some (h ▸ c.vector) else none

def typeMismatch (expected found : DataType) : Error :=
  .invalidData (.dataTypeMismatch expected.label found.label)

def as (t : DataType) (c : Column) : Result (DataVector t.Carrier) :=
  match c.as? t with
  | some v => .ok v
  | none => .error (typeMismatch t c.dataType)

instance : BEq Column where
  beq c d :=
    match d.as? c.dataType with
    | some w => c.vector == w
    | none => false

def inspect (c : Column) : String :=
  Columnar.inspect c.dataType ++ "(" ++ c.vector.inspect ++ ")"

def typeKey : String := "dtype"

open Json

def splitType : List (Option String × Json) →
    Decoded (Option DataType × List (Option String × Json))
  | [] => .ok (none, [])
  | (k, v) :: members => do
    if k = some typeKey then
      let t ← decodeType v
      let (others, rest) ← splitType members
      if others.isSome then throw .unreadable
      return (some t, rest)
    else
      let (t, rest) ← splitType members
      return (t, (k, v) :: rest)
where
  decodeType : Json → Decoded DataType
    | .string s => decode .direct (.string s)
    | _ => .error .unreadable

/-- A column is read whole before its data are, since the type may stand last. Its parts may be the
members of an object or the items of an array that starts with the type. -/
def decodeFrom (depth : Nat) (v : Json) : Decoded Column := do
  unless buffers depth v do throw .unreadable
  match v with
  | .object members _ =>
    let (t, rest) ← splitType members
    match t with
    | some t => return ⟨t, ← decode .buffered (.object rest true)⟩
    | none => throw .unreadable
  | .array (t :: items) _ =>
    let t ← splitType.decodeType t
    return ⟨t, ← decode .buffered (.array items true)⟩
  | _ => throw .unreadable

instance : Codec Column where
  encode c := .ofMembers ((typeKey, encode c.dataType) :: c.vector.members)
  decode _ := decodeFrom depthLimit

end Column

end Columnar
