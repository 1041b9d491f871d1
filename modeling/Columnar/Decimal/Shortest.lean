import Columnar.Scalar.Exact

/-! Of the decimals that lie nearer to a floating-point value than to its neighbours, the nearest of
those with the fewest digits. -/

namespace Columnar

structure Decimal where
  coefficient : Nat
  exponent : Int
deriving DecidableEq

namespace Decimal

inductive Tie where
  | upper
  | even
deriving DecidableEq

def compareScaled (a : Nat) (i : Int) (n : Nat) (j : Int) : Ordering :=
  compare (a * Nat.pow 10 i.toNat * Nat.pow 2 (-j).toNat)
    (n * Nat.pow 2 j.toNat * Nat.pow 10 (-i).toNat)

/-- The decimal lies among the reals that round to `mantissa * 2 ^ exponent`: its distance is at
most half the gap, and less than that if the mantissa is odd. -/
def readsBack (mantissa : Nat) (exponent : Int) (narrowBelow : Bool) (d : Decimal) : Bool :=
  let low := if narrowBelow then 4 * mantissa - 1 else 4 * mantissa - 2
  let high := 4 * mantissa + 2
  let closed := mantissa % 2 == 0
  let below := compareScaled d.coefficient d.exponent low (exponent - 2)
  let above := compareScaled d.coefficient d.exponent high (exponent - 2)
  (below == .gt || (closed && below == .eq)) && (above == .lt || (closed && above == .eq))

def scale (mantissa : Nat) (exponent : Int) : Int :=
  let estimate := ((mantissa.log2 + exponent) * 30103) / 100000
  let bound (k : Int) := compareScaled 1 k mantissa exponent == .gt
  if bound estimate then estimate
  else if bound (estimate + 1) then estimate + 1
  else estimate + 2

def floorTo (mantissa : Nat) (exponent grid : Int) : Nat :=
  mantissa * Nat.pow 2 exponent.toNat * Nat.pow 10 (-grid).toNat
    / (Nat.pow 2 (-exponent).toNat * Nat.pow 10 grid.toNat)

def nearer (tie : Tie) (mantissa : Nat) (exponent : Int) (lower : Nat) (grid : Int) : Nat :=
  match compareScaled (2 * lower + 1) grid (2 * mantissa) exponent with
  | .lt => lower + 1
  | .gt => lower
  | .eq =>
    match tie with
    | .upper => lower + 1
    | .even => if lower % 2 = 0 then lower else lower + 1

def withDigits? (tie : Tie) (mantissa : Nat) (exponent : Int) (narrowBelow : Bool) (n : Nat) :
    Option Decimal :=
  let grid := scale mantissa exponent - n
  let lower := floorTo mantissa exponent grid
  let fits (c : Nat) := readsBack mantissa exponent narrowBelow ⟨c, grid⟩
  match fits lower, fits (lower + 1) with
  | true, true => some ⟨nearer tie mantissa exponent lower grid, grid⟩
  | true, false => some ⟨lower, grid⟩
  | false, true => some ⟨lower + 1, grid⟩
  | false, false => none

def normalize (d : Decimal) : Decimal :=
  if h : d.coefficient ≠ 0 ∧ d.coefficient % 10 = 0 then
    normalize ⟨d.coefficient / 10, d.exponent + 1⟩
  else d
termination_by d.coefficient
decreasing_by omega

/-- The shortest decimal that reads back as a positive value. Seventeen digits suffice for every
format of at most 53 bits; beyond that the value itself is a decimal. -/
def shortest (tie : Tie) (mantissa : Nat) (exponent : Int) (narrowBelow : Bool) : Decimal :=
  match (List.range 17).findSome? fun n =>
    withDigits? tie mantissa exponent narrowBelow (n + 1) with
  | some d => d.normalize
  | none => let (n, k) := Exact.toDecimal mantissa exponent; normalize ⟨n, -k⟩

end Decimal

end Columnar
