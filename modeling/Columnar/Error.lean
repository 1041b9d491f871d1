import Columnar.Decimal.Digits

namespace Columnar

inductive Defect where
  | monthOutOfRange (month : Nat)
  | dayOutOfRange (year : Int) (month day : Nat)
  | timeOutOfRange (hour minute second : Nat)
  | unreadable (text : String)
  | unknownDataType (text : String)
  | dataTypeMismatch (expected found : String)
  | duplicateCategory (value : String)
  | columnExists (name : String)
  | offsetOutOfRange (minutes : Int) (limit : Nat)
deriving DecidableEq

inductive Error where
  | shapeMismatch (name : String) (shape : List Nat) (expected actual : Nat)
  | sentinelCollision (name value : String)
  | missingValue (name : String)
  | lengthMismatch (name : String) (expected actual : Nat)
  | divideByZero (name : String) (index : Nat)
  | overflow (name : String)
  | nullArgument (name : String)
  | keyNotFound (key : String)
  | invalidData (defect : Defect)
  | emptyInput (name : String)
  | duplicateLabel (name value : String)
deriving DecidableEq

abbrev Result := Except Error

open Decimal in
def Defect.message : Defect → String
  | monthOutOfRange month => "month " ++ ofNat month ++ " out of range"
  | dayOutOfRange year month day =>
    "day " ++ ofNat day ++ " out of range for " ++ zeroPadded 4 year ++ "-" ++ zeroPadded 2 month
  | timeOutOfRange hour minute second =>
    "time " ++ zeroPadded 2 hour ++ ":" ++ zeroPadded 2 minute ++ ":" ++ zeroPadded 2 second
      ++ " out of range"
  | unreadable text => "cannot parse '" ++ text ++ "'"
  | unknownDataType text => "unknown data type '" ++ text ++ "'"
  | dataTypeMismatch expected found => "expected " ++ expected ++ " data, found " ++ found
  | duplicateCategory value => "duplicate category " ++ value
  | columnExists name => "column '" ++ name ++ "' already exists"
  | offsetOutOfRange minutes limit =>
    "utc offset of " ++ ofInt minutes ++ " minutes is outside ±" ++ ofNat limit

open Decimal in
def Error.message : Error → String
  | shapeMismatch name shape expected actual =>
    "Shape mismatch for '" ++ name ++ "': shape " ++ listed shape ++ " needs " ++ ofNat expected
      ++ " elements, got " ++ ofNat actual
  | sentinelCollision name value => "Value " ++ value ++ " for '" ++ name ++ "' is reserved as NA"
  | missingValue name => "Value of '" ++ name ++ "' is NA"
  | lengthMismatch name expected actual =>
    "Length mismatch for '" ++ name ++ "': expected " ++ ofNat expected ++ ", got " ++ ofNat actual
  | divideByZero name index => "Division by zero in '" ++ name ++ "' at index " ++ ofNat index
  | overflow name => "Arithmetic overflow in '" ++ name ++ "'"
  | nullArgument name => "Argument '" ++ name ++ "' must not be null"
  | keyNotFound key => "Key not found: '" ++ key ++ "'"
  | invalidData defect => "Invalid data: " ++ defect.message
  | emptyInput name => "Argument '" ++ name ++ "' must not be empty"
  | duplicateLabel name value => "Duplicate value label for '" ++ name ++ "': " ++ value

def checkLength (name : String) (expected actual : Nat) : Result Unit :=
  if actual = expected then .ok () else .error (.lengthMismatch name expected actual)

/-- An access beyond the data, or a size that no buffer, table or 64-bit word holds. -/
inductive OutOfBounds where
  | position (length index : Nat)
  | cell (index shape : List Nat)
  | buffer
  | table
  | product
  | slice
deriving DecidableEq

open Decimal in
def OutOfBounds.message : OutOfBounds → String
  | position length index =>
    "index out of bounds: the len is " ++ ofNat length ++ " but the index is " ++ ofNat index
  | cell index shape => "index " ++ listed index ++ " out of bounds for shape " ++ listed shape
  | buffer => "capacity overflow"
  | table => "Hash table capacity overflow"
  | product => "attempt to multiply with overflow"
  | slice => "slice len overflow"

def atPosition {α : Type} (data : List α) (i : Nat) : Except OutOfBounds α :=
  match data[i]? with
  | some a => .ok a
  | none => .error (.position data.length i)

def setPosition {α : Type} (data : List α) (i : Nat) (a : α) : Except OutOfBounds (List α) :=
  if i < data.length then .ok (data.set i a) else .error (.position data.length i)

end Columnar
