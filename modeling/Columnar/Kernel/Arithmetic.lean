import Columnar.Error
import Columnar.Scalar.Operation

/-! Lengths are checked first and divisors next, and only then is anything written. -/

namespace Columnar

structure Filled (α : Type) where
  outcome : Result Unit
  buffer : List α

namespace Kernel

def writeIf {α : Type} (check : Result Unit) (written before : List α) : Filled α :=
  match check with
  | .ok () => ⟨.ok (), written⟩
  | .error e => ⟨.error e, before⟩

def fill {α β : Type} (f : α → α → β) : List β → List α → List α → List β
  | _ :: out, a :: as, b :: bs => f a b :: fill f out as bs
  | out, _, _ => out

def checkOperands (lhs rhs out : Nat) : Result Unit := do
  checkLength "rhs" lhs rhs
  checkLength "out" lhs out

variable {α : Type} [Number α]

def checkDivisorsFrom : Nat → List α → List α → Result Unit
  | index, a :: as, b :: bs =>
    match Number.checkedDiv a b with
    | some _ => checkDivisorsFrom (index + 1) as bs
    | none =>
      if Number.isZero b then .error (.divideByZero "rhs" index) else .error (.overflow "lhs")
  | _, _, _ => .ok ()

def checkDefined (op : Operation) (as bs : List α) : Result Unit :=
  match op with
  | .divide => checkDivisorsFrom 0 as bs
  | _ => .ok ()

def checkDivisor (b : α) : Result Unit :=
  if Number.isZero b then .error (.divideByZero "scalar" 0) else .ok ()

def combineInto (op : Operation) (as bs out : List α) : Filled α :=
  let check := do
    checkOperands as.length bs.length out.length
    checkDefined op as bs
  writeIf check (fill op.run out as bs) out

def combine (op : Operation) (as bs : List α) : Result (List α) :=
  let filled := combineInto op as bs (List.replicate as.length Number.zero)
  filled.outcome.map fun () => filled.buffer

def combineInPlace (op : Operation) (target bs : List α) : Filled α :=
  let check := do
    checkLength "rhs" target.length bs.length
    checkDefined op target bs
  writeIf check (fill op.run target target bs) target

def quotients (b : α) : List α → Result (List α)
  | [] => .ok []
  | a :: as => do
    match Number.checkedDiv a b with
    | some q => return q :: (← quotients b as)
    | none => throw (.overflow "values")

def combineScalar (op : Operation) (as : List α) (b : α) : Result (List α) :=
  match op with
  | .divide => do
    checkDivisor b
    quotients b as
  | _ => .ok (as.map fun a => op.run a b)

def combineScalarInPlace (op : Operation) (target : List α) (b : α) : Filled α :=
  let check := match op with
    | .divide => do
      checkDivisor b
      if target.any fun a => (Number.checkedDiv a b).isNone then throw (.overflow "target")
    | _ => .ok ()
  writeIf check (target.map fun a => op.run a b) target

end Kernel

end Columnar
