import Columnar.Annotated.Series
import Columnar.Kernel.Comparison
import Columnar.Kernel.Present

namespace Columnar

class Sequence (γ : Type) (α : outParam Type) where
  toList : γ → List α

class EditableSequence (γ : Type) (α : outParam Type) extends Sequence γ α where
  put : γ → List α → γ

instance {α : Type} : EditableSequence (List α) α where
  toList as := as
  put _ as := as

section

variable {α : Type} [BEq α]

instance : EditableSequence (DataVector α) α where
  toList v := v.data
  put v data := { v with data := data }

instance : EditableSequence (Series α) α where
  toList s := s.data
  put s data := { s with vector := { s.vector with data := data } }

instance : Sequence (DataVector.Window α) α := ⟨DataVector.Window.data⟩

end

instance {α : Type} : Sequence (Strided α) α := ⟨Strided.data⟩

namespace Sequence

variable {γ δ α : Type} [Sequence γ α] [Sequence δ α]

section Number

variable [Number α]

def combine (op : Operation) (c : γ) (d : δ) : Result (DataVector α) :=
  (Kernel.combine op (toList c) (toList d)).map .ofList

def combineScalar (op : Operation) (c : γ) (b : α) : Result (DataVector α) :=
  (Kernel.combineScalar op (toList c) b).map .ofList

def compare (op : Comparison) (c : γ) (d : δ) : Result (DataVector Bool) :=
  (Kernel.compare op (toList c) (toList d)).map .ofList

def sum (c : γ) : α := Reduction.sum (toList c)

def checkedSum (c : γ) : Result α := Reduction.checkedSum (toList c)

def mean (c : γ) : Result α := Reduction.mean (toList c)

def meanAs (β : Type) [Number β] (c : γ) : Result β := Reduction.meanAs β (toList c)

def minimum (c : γ) : Result α := Reduction.min (toList c)

def maximum (c : γ) : Result α := Reduction.max (toList c)

end Number

section Floating

variable [Floating α]

def sumWith (s : Summation) (c : γ) : α := Reduction.sumWith s (toList c)

def variance (c : γ) : Result α := Reduction.variance (toList c)

def sampleVariance (c : γ) : Result α := Reduction.sampleVariance (toList c)

end Floating

end Sequence

def EditableSequence.combineInPlace {γ δ α : Type} [EditableSequence γ α] [Sequence δ α] [Number α]
    (op : Operation) (c : γ) (d : δ) : Result Unit × γ :=
  let filled := Kernel.combineInPlace op (Sequence.toList c) (Sequence.toList d)
  (filled.outcome, put c filled.buffer)

end Columnar
