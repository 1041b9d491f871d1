import Columnar.Kernel.Arithmetic
import Columnar.Kernel.Reduction
import Columnar.Missing.Basic

/-! Bulk arithmetic computes with the raw values, sentinels included, and then marks the places
where an operand was missing. -/

namespace Columnar

def Reduction.best? {α : Type} (better : α → α → Bool) : List α → Option α
  | [] => none
  | a :: as => some (as.foldl (fun a b => if better b a then b else a) a)

namespace Marked

open Reduction

variable {m : Marker} {α : Type} [Number α]

def present (xs : List (Marked m α)) : List α := xs.filterMap toOption

def missingCount (xs : List (Marked m α)) : Nat := (xs.filter isMissing).length

def sum (xs : List (Marked m α)) : α := (present xs).foldl Number.add Number.zero

def total (xs : List (Marked m α)) : α × Nat :=
  (present xs).foldl (fun (acc, n) a => (Number.add acc a, n + 1)) (Number.zero, 0)

def mean (xs : List (Marked m α)) : Result α := do
  let (acc, n) := total xs
  if n = 0 then throw noValues
  let n ← count α n
  return Number.div acc n

def min (xs : List (Marked m α)) : Result α := orElse noValues (best? Ordered.less (present xs))

def max (xs : List (Marked m α)) : Result α := orElse noValues (best? Ordered.greater (present xs))

def mask : List (Marked m α) → List (Marked m α) → List (Marked m α) → List (Marked m α)
  | o :: out, x :: xs, y :: ys =>
    (if x.isMissing || y.isMissing then missing else o) :: mask out xs ys
  | out, _, _ => out

def rawPass (op : Operation) (xs ys out : List (Marked m α)) : List (Marked m α) :=
  ofRawValues m <| match op with
    | .divide =>
      let quotient a b := (Number.checkedDiv a b).getD (sentinel m α)
      Kernel.fill quotient (rawValues out) (rawValues xs) (rawValues ys)
    | op => (Kernel.combineInto op (rawValues xs) (rawValues ys) (rawValues out)).buffer

def combineInto (op : Operation) (xs ys out : List (Marked m α)) : Filled (Marked m α) :=
  Kernel.writeIf (Kernel.checkOperands xs.length ys.length out.length)
    (mask (rawPass op xs ys out) xs ys) out

end Marked

namespace NotNaN

open Reduction

variable {α : Type} [Floating α]

def kept (as : List α) : List α := as.filter fun a => !Floating.isNaN a

def count (as : List α) : Nat := (kept as).length

def sum (as : List α) : α := (kept as).foldl (· + ·) Floating.zero

def total (as : List α) : α × Nat :=
  (kept as).foldl (fun (acc, n) a => (acc + a, n + 1)) (Floating.zero, 0)

def mean (as : List α) : Result α := do
  let (acc, n) := total as
  if n = 0 then throw noValues
  let n ← Reduction.count α n
  return acc / n

def min (as : List α) : Result α := orElse noValues (best? Ordered.less (kept as))

def max (as : List α) : Result α := orElse noValues (best? Ordered.greater (kept as))

def variance (as : List α) : Result α := Reduction.variance (kept as)

end NotNaN

end Columnar
