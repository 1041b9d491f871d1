import Columnar.Element

namespace Columnar

inductive DataType where
  | number (t : NumberType)
  | instant
  | truth
  | character
  | string
  | missingInt64
  | missingInt32
  | missingFloat64
  | missingFloat32
deriving DecidableEq

namespace DataType

def all : List DataType :=
  [number .binary64, number .binary32,
   number (.integer .int64), number (.integer .uint64),
   number (.integer .int32), number (.integer .uint32),
   number (.integer .int16), number (.integer .uint16),
   number (.integer .int8), number (.integer .uint8),
   number (.integer .int128), number (.integer .uint128),
   instant, truth, character, string,
   missingInt64, missingInt32, missingFloat64, missingFloat32]

def label : DataType → String
  | number (.integer t) => (if t.signed then "int" else "uint") ++ Decimal.ofNat t.width.bits
  | number .binary32 => "float32"
  | number .binary64 => "float64"
  | instant => "datetime64"
  | truth => "bool"
  | character => "char"
  | string => "string"
  | missingInt64 => "na_int64"
  | missingInt32 => "na_int32"
  | missingFloat64 => "na_float64"
  | missingFloat32 => "na_float32"

def inspect : DataType → String
  | number (.integer t) => (if t.signed then "Int" else "UInt") ++ Decimal.ofNat t.width.bits
  | number .binary32 => "Float32"
  | number .binary64 => "Float64"
  | instant => "DateTime64"
  | truth => "Bool"
  | character => "Char"
  | string => "String"
  | missingInt64 => "NaInt64"
  | missingInt32 => "NaInt32"
  | missingFloat64 => "NaFloat64"
  | missingFloat32 => "NaFloat32"

def isNumeric : DataType → Bool
  | number _ | missingInt64 | missingInt32 | missingFloat64 | missingFloat32 => true
  | instant | truth | character | string => false

@[reducible] def elementType : DataType → ElementType
  | number t => .number t
  | instant => .instant
  | truth => .truth
  | character => .character
  | string => .string
  | missingInt64 => .marked .greatest (.integer .int64)
  | missingInt32 => .marked .greatest (.integer .int32)
  | missingFloat64 => .marked .nan .binary64
  | missingFloat32 => .marked .nan .binary32

abbrev Carrier (t : DataType) : Type := t.elementType.Carrier

def names : List (String × DataType) := all.map fun t => (t.label, t)

def parse (text : String) : Result DataType :=
  match names.lookup text with
  | some t => .ok t
  | none => .error (.invalidData (.unknownDataType text))

instance : Legible DataType where
  display := label
  inspect := inspect

instance : Codec DataType where
  encode t := .ofString t.label
  decode _ := Json.decodeName names

end DataType

end Columnar
