import Columnar.Element

/-! Category sets keep the order in which their values were declared. No member equals an earlier
one; a value that differs from itself can be declared more than once. -/

namespace Columnar

def Distinct {α : Type} [BEq α] (as : List α) : Prop := as.Pairwise fun a b => (a == b) = false

theorem distinct_nil {α : Type} [BEq α] : Distinct ([] : List α) := List.Pairwise.nil

structure CategorySet (α : Type) [BEq α] where
  members : List α
  distinct : Distinct members

structure FrozenCategorySet (α : Type) [BEq α] where
  set : CategorySet α

class Categories (γ : Type) (α : outParam Type) where
  members : γ → List α

section

variable {α : Type} [BEq α]

instance : Categories (CategorySet α) α := ⟨CategorySet.members⟩

instance : Categories (FrozenCategorySet α) α := ⟨fun s => s.set.members⟩

end

namespace Categories

variable {γ δ α : Type} [Categories γ α] [Categories δ α] [BEq α]

def size (s : γ) : Nat := (members s).length

def isEmpty (s : γ) : Bool := (members s).isEmpty

def contains (s : γ) (a : α) : Bool := (members s).any fun b => b == a

def isSubset (s : γ) (t : δ) : Bool := size s ≤ size t && (members s).all (contains t)

def isProperSubset (s : γ) (t : δ) : Bool := size s < size t && isSubset s t

def isSuperset (s : γ) (t : δ) : Bool := size t ≤ size s && (members t).all (contains s)

def isProperSuperset (s : γ) (t : δ) : Bool := size t < size s && isSuperset s t

def overlaps (s : γ) (t : δ) : Bool := (members s).any (contains t)

def setEquals (s : γ) (t : δ) : Bool := size s == size t && isSubset s t

end Categories

namespace CategorySet

variable {α : Type} [BEq α]

def empty : CategorySet α := ⟨[], distinct_nil⟩

instance : EmptyCollection (CategorySet α) := ⟨empty⟩

def contains (s : CategorySet α) (a : α) : Bool := Categories.contains s a

def push (s : CategorySet α) (a : α) (h : s.contains a = false) : CategorySet α where
  members := s.members ++ [a]
  distinct := by
    refine List.pairwise_append.2 ⟨s.distinct, List.pairwise_singleton .., ?_⟩
    intro b hb c hc
    rw [List.mem_singleton.1 hc]
    have := List.any_eq_false.1 h b hb
    simpa using this

def add (s : CategorySet α) (a : α) : CategorySet α :=
  if h : s.contains a = false then s.push a h else s

def addNew (s : CategorySet α) (a : α) : Bool × CategorySet α := (!s.contains a, s.add a)

def extend (s : CategorySet α) (as : List α) : CategorySet α := as.foldl add s

def ofList (as : List α) : CategorySet α := empty.extend as

def erase (s : CategorySet α) (a : α) : CategorySet α where
  members := s.members.eraseP fun b => b == a
  distinct := s.distinct.sublist List.eraseP_sublist

def remove (s : CategorySet α) (a : α) : Bool × CategorySet α := (s.contains a, s.erase a)

def extendDistinct [Legible α] (s : CategorySet α) : List α → Result (CategorySet α)
  | [] => .ok s
  | a :: as =>
    if h : s.contains a = false then (s.push a h).extendDistinct as
    else .error (.invalidData (.duplicateCategory (inspect a)))

def ofDistinct [Legible α] (as : List α) : Result (CategorySet α) := empty.extendDistinct as

def freeze (s : CategorySet α) : FrozenCategorySet α := ⟨s⟩

instance : BEq (CategorySet α) := ⟨fun s t => s.members == t.members⟩

def inspect [Legible α] (s : CategorySet α) : String :=
  inspectRecord "CategorySet" [("members", inspectList s.members)]

instance [Legible α] [Codec α] : Codec (CategorySet α) where
  encode s := encode s.members
  decode source v := do
    let as : List α ← decode source v
    Json.accept (ofDistinct as)

end CategorySet

namespace FrozenCategorySet

variable {α : Type} [BEq α]

def ofList (as : List α) : FrozenCategorySet α := (CategorySet.ofList as).freeze

instance : BEq (FrozenCategorySet α) := ⟨fun s t => s.set == t.set⟩

def inspect [Legible α] (s : FrozenCategorySet α) : String :=
  inspectRecord "ReadOnlyCategorySet" [("members", inspectList s.set.members)]

instance [Legible α] [Codec α] : Codec (FrozenCategorySet α) where
  encode s := encode s.set
  decode source v := (decode source v).map CategorySet.freeze

end FrozenCategorySet

end Columnar
