import Columnar.Scalar.Number

namespace Columnar

inductive Operation where
  | add | subtract | multiply | divide
deriving DecidableEq

namespace Operation

variable {α : Type} [Number α]

def run : Operation → α → α → α
  | add => Number.add
  | subtract => Number.sub
  | multiply => Number.mul
  | divide => Number.div

def result? : Operation → α → α → Option α
  | add, a, b => some (Number.add a b)
  | subtract, a, b => some (Number.sub a b)
  | multiply, a, b => some (Number.mul a b)
  | divide, a, b => Number.checkedDiv a b

end Operation

inductive Comparison where
  | less | greater | equal
deriving DecidableEq

namespace Comparison

variable {α : Type} [Ordered α]

def holds : Comparison → α → α → Bool
  | less => Ordered.less
  | greater => Ordered.greater
  | equal => fun a b => a == b

end Comparison

end Columnar
