import Columnar.Error
import Columnar.Json.Codec

namespace Columnar

inductive Summation where
  | naive
  | compensated
deriving DecidableEq

namespace Summation

def names : List (String × Summation) :=
  [("naive", naive), ("kahan_babushka_neumaier", compensated)]

def name : Summation → String
  | naive => "naive"
  | compensated => "kahan_babushka_neumaier"

def default : Summation := naive

instance : Codec Summation where
  encode s := .ofString s.name
  decode _ := Json.decodeName names

end Summation

namespace Reduction

section Number

variable {α β : Type} [Number α] [Number β]

def noValues : Error := .emptyInput "values"

def tooLarge : Error := .overflow "values"

def orElse {γ : Type} (e : Error) : Option γ → Result γ
  | some c => .ok c
  | none => .error e

def checkNonempty {γ : Type} : List γ → Result Unit
  | [] => .error noValues
  | _ :: _ => .ok ()

def count (α : Type) [Number α] (n : Nat) : Result α := orElse tooLarge (Number.ofNat? n)

def sum (as : List α) : α := as.foldl Number.add Number.zero

def checkedSum (as : List α) : Result α :=
  as.foldlM (fun acc a => orElse tooLarge (Number.checkedAdd acc a)) Number.zero

def sumAs (β : Type) [Number β] (as : List α) : Result β :=
  as.foldlM (fun acc a => orElse tooLarge ((Number.cast? a).bind (Number.checkedAdd acc)))
    Number.zero

def mean (as : List α) : Result α := do
  checkNonempty as
  let n ← count α as.length
  return Number.div (sum as) n

def meanAs (β : Type) [Number β] (as : List α) : Result β := do
  checkNonempty as
  let total ← sumAs β as
  let n ← count β as.length
  return Number.div total n

def extremumFrom (better : α → α → Bool) : α → List α → α
  | best, [] => best
  | best, a :: as =>
    if Number.isNaN best then best
    else extremumFrom better (if Number.isNaN a || better a best then a else best) as

def extremum (better : α → α → Bool) : List α → Result α
  | [] => .error noValues
  | a :: as => .ok (extremumFrom better a as)

def min (as : List α) : Result α := extremum Ordered.less as

def max (as : List α) : Result α := extremum Ordered.greater as

end Number

section Floating

variable {α : Type} [Floating α]

structure Compensated (α : Type) where
  sum : α
  lost : α

def Compensated.add (c : Compensated α) (a : α) : Compensated α :=
  let t := c.sum + a
  let lost :=
    if Floating.isFinite t then
      if Ordered.atLeast (Floating.abs c.sum) (Floating.abs a) then c.lost + ((c.sum - t) + a)
      else c.lost + ((a - t) + c.sum)
    else c.lost
  ⟨t, lost⟩

def compensatedSum (as : List α) : α :=
  let c := as.foldl Compensated.add ⟨Floating.zero, Floating.zero⟩
  if Floating.isFinite c.sum then c.sum + c.lost else c.sum

def sumWith (s : Summation) (as : List α) : α :=
  match s with
  | .naive => sum as
  | .compensated => compensatedSum as

def varianceWith (ddof : Nat) (as : List α) : Result α := do
  checkNonempty as
  if as.length ≤ ddof then throw noValues
  let centre ← mean as
  let squares := as.foldl (fun acc a => acc + (a - centre) * (a - centre)) Floating.zero
  let n ← count α (as.length - ddof)
  return squares / n

def variance (as : List α) : Result α := varianceWith 0 as

def sampleVariance (as : List α) : Result α := varianceWith 1 as

end Floating

end Reduction

end Columnar
