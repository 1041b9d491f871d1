import Columnar.Kernel.Reduction

namespace Columnar

inductive Aggregation where
  | mean
  | sum
  | min
  | max
  | first
  | last
deriving DecidableEq

namespace Aggregation

def default : Aggregation := mean

def name : Aggregation → String
  | mean => "mean"
  | sum => "sum"
  | min => "min"
  | max => "max"
  | first => "first"
  | last => "last"

def names : List (String × Aggregation) :=
  [("mean", mean), ("sum", sum), ("min", min), ("max", max), ("first", first), ("last", last)]

def inspect : Aggregation → String
  | mean => "Mean"
  | sum => "Sum"
  | min => "Min"
  | max => "Max"
  | first => "First"
  | last => "Last"

instance : Codec Aggregation where
  encode a := .ofString a.name
  decode _ := Json.decodeName names

def noBucket : Error := .emptyInput "bucket"

variable {α : Type} [Number α]

def run : Aggregation → List α → Result α
  | mean, as => Reduction.mean as
  | sum, as => .ok (Reduction.sum as)
  | min, as => Reduction.min as
  | max, as => Reduction.max as
  | first, as => Reduction.orElse noBucket as.head?
  | last, as => Reduction.orElse noBucket as.getLast?

end Aggregation

end Columnar
