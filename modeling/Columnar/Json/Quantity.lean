import Columnar.Json.Basic
import Columnar.Scalar.Number

/-! A numeral without point and exponent is an integer if a 64-bit type holds it. Any other is read
as a 64-bit floating-point number, each step rounded on its own. -/

namespace Columnar.Json

inductive Quantity where
  | integer (x : Int)
  | real (x : Float)

def absorb (n : Nat) : List Char → Nat × Nat
  | [] => (n, 0)
  | c :: ds =>
    let m := 10 * n + Decimal.digitValue c
    if m < Nat.pow 2 64 then
      let (k, read) := absorb m ds
      (k, read + 1)
    else (n, 0)

def powerOfTen (k : Nat) : Float := Float.ofScientific 1 false k

def divideByPower (x : Float) (k : Nat) : Float :=
  if k ≤ 308 then x / powerOfTen k
  else if x == 0 then x
  else divideByPower (x / powerOfTen 308) (k - 308)
termination_by k
decreasing_by omega

def scale? (n : Nat) (e : Int) : Option Float :=
  let x : Float := Floating.round (.finite false n 0)
  if 0 ≤ e then
    if 308 < e then (if x == 0 then some x else none)
    else
      let y := x * powerOfTen e.toNat
      if y.isInf then none else some y
  else some (divideByPower x (-e).toNat)

def exponentOf (sign ds : List Char) : Int × Bool :=
  let n := (ds.dropWhile (· == '0')).take 11
  let magnitude := Decimal.value n
  (if sign == ['-'] then -magnitude else magnitude, magnitude < Nat.pow 2 31)

def clamp (e : Int) : Int :=
  let bound : Int := Nat.pow 2 31
  max (-bound) (min (bound - 1) e)

def splitSign : List Char → List Char × List Char
  | '+' :: r => (['+'], r)
  | '-' :: r => (['-'], r)
  | r => ([], r)

def real? (n : Numeral) : Option Float := do
  let (whole, used) := absorb 0 n.whole
  let shift : Int := (n.whole.length - used : Nat)
  let (significand, places) := absorb whole n.fraction
  let base : Int := shift - places
  let x ← match n.exponent with
    | none => scale? significand base
    | some e =>
      let (sign, ds) := splitSign e
      let (written, small) := exponentOf sign ds
      if small then scale? significand (clamp (base + written))
      else if significand ≠ 0 && 0 ≤ written then none
      else some 0
  return if n.negative then -x else x

def quantity? (n : Numeral) : Option Quantity :=
  let x : Int := if n.negative then -(Decimal.value n.whole : Int) else Decimal.value n.whole
  let least : Int := -(Nat.pow 2 63 : Nat)
  let bound : Int := Nat.pow 2 64
  if n.fraction.isEmpty && n.exponent.isNone && least ≤ x && x < bound
      && !(n.negative && x == 0) then
    some (.integer x)
  else (real? n).map .real

end Columnar.Json
