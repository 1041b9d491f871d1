import Columnar.Error
import Columnar.Scalar.Operation
import Columnar.Scalar.Text

/-! A number type is given a missing value by setting one of its own values aside, the sentinel. -/

namespace Columnar

inductive Marker where
  | greatest
  | least
  | nan
deriving DecidableEq

namespace Marker

def label : Marker → String
  | greatest => "NaInt"
  | least => "NaNumber"
  | nan => "NaFloat"

end Marker

/-- A number of type `α` that may be missing. -/
structure Marked (m : Marker) (α : Type) where
  raw : α

namespace Marked

variable {m : Marker} {α : Type}

def missingText : String := "NA"

section Number

variable [Number α]

def sentinel (m : Marker) (α : Type) [Number α] : α :=
  match m with
  | .greatest => Number.greatest
  | .least => Number.least
  | .nan => Number.div Number.zero Number.zero

def isSentinel (m : Marker) (a : α) : Bool :=
  match m with
  | .greatest => a == Number.greatest
  | .least => a == Number.least
  | .nan => Number.isNaN a

def missing : Marked m α := ⟨sentinel m α⟩

def isMissing (x : Marked m α) : Bool := isSentinel m x.raw

def least (m : Marker) (α : Type) [Number α] : Marked m α :=
  match m with
  | .least => ⟨Number.succ Number.least⟩
  | _ => ⟨Number.least⟩

def greatest (m : Marker) (α : Type) [Number α] : Marked m α :=
  match m with
  | .greatest => ⟨Number.sub Number.greatest Number.one⟩
  | _ => ⟨Number.greatest⟩

def default : Marked m α :=
  if isSentinel m (Number.zero : α) then least m α else ⟨Number.zero⟩

instance : Inhabited (Marked m α) := ⟨default⟩

def ofValue [Legible α] (m : Marker) (a : α) : Result (Marked m α) :=
  if isSentinel m a then .error (.sentinelCollision "value" (display a)) else .ok ⟨a⟩

def ofOption [Legible α] (m : Marker) : Option α → Result (Marked m α)
  | none => .ok missing
  | some a => ofValue m a

def toOption (x : Marked m α) : Option α := if x.isMissing then none else some x.raw

def value (x : Marked m α) : Result α :=
  if x.isMissing then .error (.missingValue "value") else .ok x.raw

def equalAndPresent (x y : Marked m α) : Bool := !x.isMissing && !y.isMissing && x.raw == y.raw

def equals (x y : Marked m α) : Bool := (x.isMissing && y.isMissing) || equalAndPresent x y

def equalOrMissing (x y : Marked m α) : Bool := x.isMissing || y.isMissing || x.raw == y.raw

def ternaryEquals (x y : Marked m α) : Option Bool :=
  if x.isMissing || y.isMissing then none else some (x.raw == y.raw)

def order? (x y : Marked m α) : Option Ordering :=
  if x.isMissing || y.isMissing then none else Ordered.order? x.raw y.raw

def compareTo (x y : Marked m α) : Ordering := (order? x y).getD .eq

instance : Ordered (Marked m α) where
  beq := equalAndPresent
  order? := order?

def binary (op : α → α → Option α) (x y : Marked m α) : Marked m α :=
  if x.isMissing || y.isMissing then missing
  else match op x.raw y.raw with
    | some a => ⟨a⟩
    | none => missing

def scalar (op : α → α → Option α) (x : Marked m α) (b : α) : Marked m α :=
  if x.isMissing then missing
  else match op x.raw b with
    | some a => ⟨a⟩
    | none => missing

end Number

end Marked

namespace Marked

variable {m : Marker} {α : Type} [Number α]

def combine (op : Operation) (x y : Marked m α) : Marked m α := binary op.result? x y

def combineScalar (op : Operation) (x : Marked m α) (b : α) : Marked m α := scalar op.result? x b

def rawValues (xs : List (Marked m α)) : List α := xs.map raw

def ofRawValues (m : Marker) (as : List α) : List (Marked m α) := as.map .mk

def setRaw (xs : List (Marked m α)) (i : Nat) (a : α) : Except OutOfBounds (List (Marked m α)) :=
  (setPosition (rawValues xs) i a).map (ofRawValues m)

def setAmongRaw (as : List α) (i : Nat) (x : Marked m α) : Except OutOfBounds (List α) :=
  (setPosition (ofRawValues m as) i x).map rawValues

def identity (x : Marked m α) : List Nat :=
  if x.isMissing then List.replicate 8 0 else Number.identity x.raw

end Marked

end Columnar
