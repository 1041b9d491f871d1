import Columnar.Calendar.Timestamp
import Columnar.Capacity
import Columnar.Missing.Text

namespace Columnar

class Element (α : Type) extends Ordered α, Legible α, Codec α, Stored α where
  filler : α

instance : Ordered Bool := .ofOrd
instance : Ordered Char := .ofOrd
instance : Ordered String := .ofOrd

inductive ElementType where
  | number (t : NumberType)
  | marked (m : Marker) (t : NumberType)
  | truth
  | character
  | string
  | instant
deriving DecidableEq

@[reducible] def ElementType.Carrier : ElementType → Type
  | number t => t.Carrier
  | marked m t => Marked m t.Carrier
  | truth => Bool
  | character => Char
  | string => String
  | instant => Timestamp

def NumberType.bytes : NumberType → Nat
  | integer t => t.width.bits / 8
  | binary32 => 4
  | binary64 => 8

instance (t : NumberType) : Element t.Carrier where
  filler := Number.zero
  bytes := t.bytes

instance (m : Marker) (t : NumberType) : Element (Marked m t.Carrier) where
  filler := Marked.default
  bytes := t.bytes

instance : Element Bool where
  filler := false
  bytes := 1

instance : Element Char where
  filler := '\x00'
  bytes := 4

instance : Element String where
  filler := ""
  bytes := 24

instance : Element Timestamp where
  filler := .epoch
  bytes := 8

instance : (t : ElementType) → Element t.Carrier
  | .number t => inferInstanceAs (Element t.Carrier)
  | .marked m t => inferInstanceAs (Element (Marked m t.Carrier))
  | .truth => inferInstanceAs (Element Bool)
  | .character => inferInstanceAs (Element Char)
  | .string => inferInstanceAs (Element String)
  | .instant => inferInstanceAs (Element Timestamp)

end Columnar
