import Columnar.Json.Codec
import Columnar.Missing.Basic
import Columnar.Text.Blank

namespace Columnar.Marked

variable {m : Marker} {α : Type} [Number α]

def display [Legible α] (x : Marked m α) : String :=
  if x.isMissing then missingText else Columnar.display x.raw

def inspect [Legible α] (x : Marked m α) : String :=
  m.label ++ "(" ++ (if x.isMissing then missingText else Columnar.inspect x.raw) ++ ")"

def setIn [Fielded α] (field : Text.Field) (x : Marked m α) : String :=
  if x.isMissing then missingText else Fielded.setIn field x.raw

def parse [Fielded α] (m : Marker) (s : String) : Result (Marked m α) :=
  let text := Text.trim s.toList
  if text = missingText.toList then .ok missing
  else match Fielded.read? text with
    | some a => ofValue m a
    | none => .error (.invalidData (.unreadable (String.ofList text)))

instance [Legible α] : Legible (Marked m α) where
  display := display
  inspect := inspect

instance [Legible α] [Codec α] : Codec (Marked m α) where
  encode x := Json.encodeOption encode x.toOption
  decode source v :=
    match v with
    | .null => return missing
    | v => do
      let (a, ends) ← decodeFront source v
      let x ← Json.accept (ofValue m a)
      if ends then return x else throw .unreadable

end Columnar.Marked
