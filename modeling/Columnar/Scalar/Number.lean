import Columnar.Scalar.Integer
import Columnar.Scalar.Exact

/-! No laws are asked for here: a NaN differs from itself. -/

namespace Columnar

class Ordered (α : Type) extends BEq α where
  order? : α → α → Option Ordering

namespace Ordered

@[reducible] def ofOrd {α : Type} [BEq α] [Ord α] : Ordered α where
  order? a b := some (compare a b)

variable {α : Type} [Ordered α]

def less (a b : α) : Bool := order? a b == some .lt

def greater (a b : α) : Bool := order? a b == some .gt

def atMost (a b : α) : Bool := order? a b == some .lt || order? a b == some .eq

def atLeast (a b : α) : Bool := order? a b == some .gt || order? a b == some .eq

end Ordered

class Number (α : Type) extends Ordered α where
  zero : α
  one : α
  least : α
  greatest : α
  isFloating : Bool
  add : α → α → α
  sub : α → α → α
  mul : α → α → α
  div : α → α → α
  checkedAdd : α → α → Option α
  checkedDiv : α → α → Option α
  isNaN : α → Bool
  succ : α → α
  exact : α → Exact
  identity : α → List Nat
  /-- Integers truncate and refuse what does not fit, floating-point numbers round to nearest. -/
  ofExact? : Exact → Option α

/-- Floating-point numbers of a binary format: the operations round to nearest, and a NaN compares
with nothing. -/
class Floating (α : Type) extends BEq α, Add α, Sub α, Mul α, Div α, Neg α where
  less : α → α → Bool
  isNaN : α → Bool
  isFinite : α → Bool
  abs : α → α
  format : BinaryFormat
  bits : α → Nat
  ofBits : Nat → α
  /-- `scaled n k` is the value nearest to `n / 10 ^ k`, of two nearest the even one. -/
  scaled : Nat → Nat → α

namespace Number

variable {α : Type} [Number α]

def isZero (a : α) : Bool := a == zero

def ofNat? (n : Nat) : Option α := ofExact? (.finite false n 0)

def cast? {β : Type} [Number β] (a : α) : Option β := ofExact? (exact a)

end Number

instance (t : IntegerType) : Number (Fixed t) where
  order? a b := some (compare a.val b.val)
  zero := .zero
  one := .one
  least := .least t
  greatest := .greatest t
  isFloating := false
  add := .add
  sub := .sub
  mul := .mul
  div := .div
  checkedAdd := Fixed.checkedAdd
  checkedDiv := Fixed.checkedDiv
  isNaN _ := false
  succ := .succ
  exact a := .ofInt a.val
  identity := Fixed.bytes
  ofExact? x := x.truncate?.bind (Fixed.ofInt? t)

namespace Floating

variable {α : Type} [Floating α]

def zero : α := scaled 0 0

def infinity : α := ofBits (format α).infinity

def nan : α := ofBits ((format α).infinity + 1)

def greatest : α := ofBits ((format α).infinity - 1)

def exact (a : α) : Exact := (format α).decode (bits a)

def order? (a b : α) : Option Ordering :=
  if less a b then some .lt else if a == b then some .eq else if less b a then some .gt else none

def succ (a : α) : α :=
  if isNaN a || a == infinity then a
  else if a == zero then ofBits 1
  else if less zero a then ofBits (bits a + 1)
  else ofBits (bits a - 1)

def round (x : Exact) : α :=
  match x with
  | .nan => nan
  | .infinite negative => if negative then -infinity else infinity
  | .finite negative m e =>
    let (n, k) := Exact.toDecimal m e
    if negative then -scaled n k else scaled n k

end Floating

instance : Floating Float where
  less a b := a < b
  isNaN := Float.isNaN
  isFinite := Float.isFinite
  abs := Float.abs
  format := .binary64
  bits a := a.toBits.toNat
  ofBits n := Float.ofBits n.toUInt64
  scaled n k := Float.ofScientific n true k

instance : Floating Float32 where
  less a b := a < b
  isNaN := Float32.isNaN
  isFinite := Float32.isFinite
  abs := Float32.abs
  format := .binary32
  bits a := a.toBits.toNat
  ofBits n := Float32.ofBits n.toUInt32
  scaled n k := Float32.ofScientific n true k

def Exact.toFloat (x : Exact) : Float := Floating.round x

def Floating.identity {α : Type} [Floating α] (a : α) : List Nat :=
  let bits := if a == Floating.zero then 0 else Floating.bits (Floating.exact a).toFloat
  littleEndian 8 bits

instance {α : Type} [Floating α] : Number α where
  order? := Floating.order?
  zero := Floating.zero
  one := Floating.scaled 1 0
  least := -Floating.greatest
  greatest := Floating.greatest
  isFloating := true
  add a b := a + b
  sub a b := a - b
  mul a b := a * b
  div a b := a / b
  checkedAdd a b := some (a + b)
  checkedDiv a b := if b == Floating.zero then none else some (a / b)
  isNaN := Floating.isNaN
  succ := Floating.succ
  exact := Floating.exact
  identity := Floating.identity
  ofExact? x := some (Floating.round x)

def Number.toFloat {α : Type} [Number α] (a : α) : Float := (exact a).toFloat

inductive NumberType where
  | integer (t : IntegerType)
  | binary32
  | binary64
deriving DecidableEq

@[reducible] def NumberType.Carrier : NumberType → Type
  | integer t => Fixed t
  | binary32 => Float32
  | binary64 => Float

instance : (t : NumberType) → Number t.Carrier
  | .integer t => inferInstanceAs (Number (Fixed t))
  | .binary32 => inferInstanceAs (Number Float32)
  | .binary64 => inferInstanceAs (Number Float)

end Columnar
