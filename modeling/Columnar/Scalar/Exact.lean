
namespace Columnar

inductive Exact where
  | nan
  | infinite (negative : Bool)
  | finite (negative : Bool) (mantissa : Nat) (exponent : Int)
deriving DecidableEq

structure BinaryFormat where
  precision : Nat
  exponentBits : Nat
deriving DecidableEq

namespace BinaryFormat

def binary64 : BinaryFormat := ⟨53, 11⟩

def binary32 : BinaryFormat := ⟨24, 8⟩

def minExponent (f : BinaryFormat) : Int :=
  3 - (Nat.pow 2 (f.exponentBits - 1) : Nat) - f.precision

def infinity (f : BinaryFormat) : Nat :=
  (Nat.pow 2 f.exponentBits - 1) * Nat.pow 2 (f.precision - 1)

def decode (f : BinaryFormat) (bits : Nat) : Exact :=
  let hidden := Nat.pow 2 (f.precision - 1)
  let fraction := bits % hidden
  let fields := Nat.pow 2 f.exponentBits
  let field := bits / hidden % fields
  let negative := bits / hidden / fields % 2 == 1
  if field = fields - 1 then
    if fraction = 0 then .infinite negative else .nan
  else if field = 0 then .finite negative fraction f.minExponent
  else .finite negative (hidden + fraction) (f.minExponent + field - 1)

def narrowBelow (f : BinaryFormat) (mantissa : Nat) (exponent : Int) : Bool :=
  mantissa == Nat.pow 2 (f.precision - 1) && f.minExponent < exponent

end BinaryFormat

namespace Exact

def ofInt (x : Int) : Exact := .finite (x < 0) x.natAbs 0

def isNegative : Exact → Bool
  | nan => false
  | infinite negative => negative
  | finite negative _ _ => negative

def truncate? : Exact → Option Int
  | finite negative m e =>
    let n := if 0 ≤ e then m * Nat.pow 2 e.toNat else m / Nat.pow 2 (-e).toNat
    some (if negative then -(n : Int) else n)
  | _ => none

/-- A positive finite number as an integer times a power of ten: the integer, and how many of its
digits stand behind the point. -/
def toDecimal (mantissa : Nat) (exponent : Int) : Nat × Nat :=
  if 0 ≤ exponent then (mantissa * Nat.pow 2 exponent.toNat, 0)
  else (mantissa * Nat.pow 5 (-exponent).toNat, (-exponent).toNat)

end Exact

end Columnar
