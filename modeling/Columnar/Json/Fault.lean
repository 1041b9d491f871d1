import Columnar.Error
import Columnar.Json.Reader

/-! The message of a refusal names its place in the text if it ends like `at line 1 column 2`. -/

namespace Columnar.Json

inductive Fault where
  | unreadable
  | refused (cause : Error)
deriving DecidableEq

abbrev Decoded := Except Fault

def accept {α : Type} (r : Result α) : Decoded α := r.mapError .refused

def isPlaceNumber (ds : List Char) : Bool := !ds.isEmpty && Decimal.value ds < Nat.pow 2 64

def isLineAndColumn (s : List Char) : Bool :=
  let (line, r) := takeDigits s
  match " column ".toList.isPrefixOf? r with
  | some r =>
    let (column, r) := takeDigits r
    isPlaceNumber line && isPlaceNumber column && r.isEmpty
  | none => false

def isPlace (s : List Char) : Bool :=
  match " at line ".toList.isPrefixOf? s with
  | some r => isLineAndColumn r
  | none => false

def withoutPlace : List Char → List Char
  | [] => []
  | c :: s => if isPlace (c :: s) then [] else c :: withoutPlace s

def Fault.message : Fault → Option String
  | .unreadable => none
  | .refused e => some (String.ofList (withoutPlace e.message.toList))

end Columnar.Json
