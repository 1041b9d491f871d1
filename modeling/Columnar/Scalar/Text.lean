import Columnar.Scalar.Number
import Columnar.Decimal.Places
import Columnar.Decimal.Reading
import Columnar.Text.Padding
import Columnar.Text.Quoted

/-! `display` is the text for a reader, `inspect` the text for a report on the data. -/

namespace Columnar

class Legible (α : Type) where
  display : α → String
  inspect : α → String

export Legible (display inspect)

class Fielded (α : Type) extends Legible α where
  setIn : Text.Field → α → String
  read? : List Char → Option α

namespace Fixed

def display {t : IntegerType} (a : Fixed t) : String := Decimal.ofInt a.val

end Fixed

instance (t : IntegerType) : Fielded (Fixed t) where
  display := Fixed.display
  inspect := Fixed.display
  setIn field a :=
    String.ofList (field.setNumber (field.sign (a.val < 0)) (Decimal.digits a.val.natAbs))
  read? s := (Decimal.readInt? t.signed s).bind (Fixed.ofInt? t)

namespace Floating

variable {α : Type} [Floating α]

def write (α : Type) [Floating α] (style : Decimal.Style) (negative : Bool) (mantissa : Nat)
    (exponent : Int) : Numeral :=
  if mantissa = 0 then Decimal.write style negative ⟨0, 0⟩
  else
    let narrow := (format α).narrowBelow mantissa exponent
    Decimal.write style negative (Decimal.shortest style.tie mantissa exponent narrow)

def displayed : Decimal.Style where
  inPlace := none
  pointZero := false
  plus := false
  tie := .upper

def inspected : Decimal.Style where
  inPlace := some (-4, 16)
  pointZero := true
  plus := false
  tie := .upper

def body (style : Decimal.Style) (places : Option Nat) (a : α) : List Char :=
  match exact a with
  | .nan => ['N', 'a', 'N']
  | .infinite _ => ['i', 'n', 'f']
  | .finite _ m e =>
    match places with
    | none => (write α style false m e).body
    | some n => (Decimal.writePlaces n false m e).body

def signed (style : Decimal.Style) (a : α) : String :=
  let body := body style none a
  String.ofList (if (exact a).isNegative then '-' :: body else body)

def setIn (field : Text.Field) (a : α) : String :=
  let sign := if isNaN a then [] else field.sign (exact a).isNegative
  let places := match field with
    | .places n => some n
    | _ => none
  String.ofList (field.setNumber sign (body displayed places a))

end Floating

instance {α : Type} [Floating α] : Fielded α where
  display := Floating.signed Floating.displayed
  inspect := Floating.signed Floating.inspected
  setIn := Floating.setIn
  read? := Decimal.readFloating?

instance : (t : NumberType) → Fielded t.Carrier
  | .integer t => inferInstanceAs (Fielded (Fixed t))
  | .binary32 => inferInstanceAs (Fielded Float32)
  | .binary64 => inferInstanceAs (Fielded Float)

instance : Legible Bool where
  display b := if b then "true" else "false"
  inspect b := if b then "true" else "false"

instance : Legible Char where
  display c := String.singleton c
  inspect := Text.quoteChar

instance : Legible String where
  display s := s
  inspect := Text.quoteString

def inspectList {α : Type} [Legible α] (xs : List α) : String :=
  "[" ++ String.intercalate ", " (xs.map inspect) ++ "]"

def inspectRecord (name : String) (fields : List (String × String)) : String :=
  name ++ " \x7b " ++ String.intercalate ", " (fields.map fun (k, v) => k ++ ": " ++ v) ++ " \x7d"

def inspectOption : Option String → String
  | none => "None"
  | some s => "Some(" ++ s ++ ")"

def inspectMap (entries : List (String × String)) : String :=
  "\x7b" ++ String.intercalate ", " (entries.map fun (k, v) => k ++ ": " ++ v) ++ "\x7d"

end Columnar
