import Columnar.Decimal.Digits
import Columnar.Decimal.Shortest

namespace Columnar

structure Numeral where
  negative : Bool
  whole : List Char
  fraction : List Char
  exponent : Option (List Char)
deriving DecidableEq

namespace Numeral

def ofInt (x : Int) : Numeral := ⟨x < 0, Decimal.digits x.natAbs, [], none⟩

def body (n : Numeral) : List Char :=
  n.whole ++ (if n.fraction.isEmpty then [] else '.' :: n.fraction)
    ++ (match n.exponent with | none => [] | some e => 'e' :: e)

def text (n : Numeral) : List Char := if n.negative then '-' :: n.body else n.body

end Numeral

namespace Decimal

structure Style where
  /-- The exponents of the leading digit that are written in place, from the first up to the
  second; without bounds all are. -/
  inPlace : Option (Int × Int)
  pointZero : Bool
  plus : Bool
  tie : Tie

def zeros (n : Nat) : List Char := List.replicate n '0'

def inPlace (style : Style) (ds : List Char) (exponent : Int) : List Char × List Char :=
  if 0 ≤ exponent then (ds ++ zeros exponent.toNat, if style.pointZero then ['0'] else [])
  else
    let behind := (-exponent).toNat
    if behind < ds.length then (ds.take (ds.length - behind), ds.drop (ds.length - behind))
    else (['0'], zeros (behind - ds.length) ++ ds)

def write (style : Style) (negative : Bool) (d : Decimal) : Numeral :=
  let ds := digits d.coefficient
  let leading := d.exponent + ds.length - 1
  let plain := match style.inPlace with
    | none => true
    | some (first, below) => d.coefficient == 0 || (first ≤ leading && leading < below)
  if plain then
    let (whole, fraction) := inPlace style ds d.exponent
    ⟨negative, whole, fraction, none⟩
  else
    let sign := if 0 ≤ leading && style.plus then ['+'] else []
    ⟨negative, ds.take 1, ds.drop 1, some (sign ++ signed leading)⟩

end Decimal

end Columnar
