import Columnar.Json.Codec

namespace Columnar

inductive Layout where
  | rowMajor
  | columnMajor
deriving DecidableEq

namespace Layout

def default : Layout := rowMajor

def name : Layout → String
  | rowMajor => "row_major"
  | columnMajor => "column_major"

def names : List (String × Layout) := [("row_major", rowMajor), ("column_major", columnMajor)]

def inspect : Layout → String
  | rowMajor => "RowMajor"
  | columnMajor => "ColumnMajor"

instance : Codec Layout where
  encode l := .ofString l.name
  decode _ := Json.decodeName names

end Layout

namespace Shape

def wordSize : Nat := Nat.pow 2 64

def stridesFrom (stride : Nat) : List Nat → List Nat
  | [] => []
  | extent :: shape => stride :: stridesFrom (stride * extent % wordSize) shape

def strides (shape : List Nat) : Layout → List Nat
  | .rowMajor => (stridesFrom 1 shape.reverse).reverse
  | .columnMajor => stridesFrom 1 shape

def countFrom (n : Nat) : List Nat → Option Nat
  | [] => some n
  | extent :: shape => if n * extent < wordSize then countFrom (n * extent) shape else none

def count (shape : List Nat) : Result Nat :=
  match countFrom 1 shape with
  | some n => .ok n
  | none => .error (.overflow "shape")

def area (otherwise : OutOfBounds) (rows columns : Nat) : Except OutOfBounds Nat :=
  if rows * columns < wordSize then .ok (rows * columns) else .error otherwise

def offsetFrom (offset : Nat) : List Nat → List Nat → List Nat → Option Nat
  | extent :: shape, stride :: strides, i :: index =>
    if i < extent then offsetFrom (offset + i * stride) shape strides index else none
  | _, _, _ => some offset

def offset? (shape strides index : List Nat) : Option Nat :=
  if index.length = shape.length then offsetFrom 0 shape strides index else none

def check (name : String) (shape : List Nat) (length : Nat) : Result Unit := do
  let expected ← count shape
  if expected = length then return () else throw (.shapeMismatch name shape expected length)

end Shape

end Columnar
