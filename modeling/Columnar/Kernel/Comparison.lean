import Columnar.Kernel.Arithmetic

namespace Columnar.Kernel

variable {α : Type} [Ordered α]

def compareInto (c : Comparison) (as bs : List α) (out : List Bool) : Filled Bool :=
  writeIf (checkOperands as.length bs.length out.length) (fill c.holds out as bs) out

def compare (c : Comparison) (as bs : List α) : Result (List Bool) :=
  let filled := compareInto c as bs (List.replicate as.length false)
  filled.outcome.map fun () => filled.buffer

def compareScalar (c : Comparison) (as : List α) (b : α) : List Bool := as.map fun a => c.holds a b

def compareScalarInto (c : Comparison) (as : List α) (b : α) (out : List Bool) : Filled Bool :=
  writeIf (checkLength "out" as.length out.length) (compareScalar c as b) out

def compareAll (c : Comparison) (as bs : List α) : Result Bool := do
  checkLength "rhs" as.length bs.length
  return (as.zip bs).all fun (a, b) => c.holds a b

def compareAny (c : Comparison) (as bs : List α) : Result Bool := do
  checkLength "rhs" as.length bs.length
  return (as.zip bs).any fun (a, b) => c.holds a b

end Columnar.Kernel
