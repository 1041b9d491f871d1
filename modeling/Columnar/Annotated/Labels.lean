import Columnar.Annotated.Categories
import Columnar.OrderedMap

namespace Columnar

structure ValueLabel (α : Type) where
  value : α
  label : String

structure Labels (α : Type) [BEq α] where
  byLabel : OrderedMap α
  distinct : Distinct byLabel.values

namespace ValueLabel

variable {α : Type} [Codec α]

structure Parts (α : Type) where
  value : Option α := none
  label : Option String := none

open Json in
def fields : List (RecordField (Parts α)) :=
  [{ name := "value"
     read := fun source v p => do return { p with value := some (← decode source v) }
     -- A value that can be missing may be left out.
     absent := fun p => do return { p with value := some (← decodeAbsent) } },
   { name := "label"
     read := fun source v p => do return { p with label := some (← decode source v) } }]
where
  decodeAbsent : Decoded α := decode .direct .null

instance : Codec (ValueLabel α) where
  encode l := .ofMembers [("value", encode l.value), ("label", encode l.label)]
  decode source v := do
    let parts ← Json.decodeRecord fields {} source v
    match parts.value, parts.label with
    | some value, some label => return ⟨value, label⟩
    | _, _ => throw .unreadable

end ValueLabel

namespace Labels

variable {α : Type} [BEq α]

def empty : Labels α := ⟨∅, distinct_nil⟩

instance : EmptyCollection (Labels α) := ⟨empty⟩

def size (l : Labels α) : Nat := l.byLabel.size

def isEmpty (l : Labels α) : Bool := l.byLabel.isEmpty

def toList (l : Labels α) : List (ValueLabel α) := l.byLabel.entries.map fun (k, a) => ⟨a, k⟩

def containsValue (l : Labels α) (a : α) : Bool := l.byLabel.values.any fun b => b == a

def containsLabel (l : Labels α) (label : String) : Bool := label ∈ l.byLabel

def value? (l : Labels α) (label : String) : Option α := l.byLabel.find? label

def label? (l : Labels α) (a : α) : Option String :=
  (l.byLabel.entries.find? fun e => e.2 == a).map Prod.fst

def push (l : Labels α) (a : α) (label : String) (hv : l.containsValue a = false)
    (hl : label ∉ l.byLabel) : Labels α where
  byLabel := l.byLabel.push label a hl
  distinct := by
    simp only [OrderedMap.values, OrderedMap.push, List.map_append, List.map_cons, List.map_nil]
    refine List.pairwise_append.2 ⟨l.distinct, List.pairwise_singleton .., ?_⟩
    intro b hb c hc
    rw [List.mem_singleton.1 hc]
    have := List.any_eq_false.1 hv b hb
    simpa using this

def erase (l : Labels α) (a : α) : Labels α where
  byLabel :=
    { entries := l.byLabel.entries.eraseP fun e => e.2 == a
      nodup := l.byLabel.nodup.sublist (List.eraseP_sublist.map _) }
  distinct := l.distinct.sublist (List.eraseP_sublist.map _)

abbrev Change (α : Type) [BEq α] := EStateM Error (Labels α)

def add [Legible α] (a : α) (label : String) : Change α Unit := do
  let l ← get
  if hv : l.containsValue a then throw (.duplicateLabel "value" (display a))
  else if hl : label ∈ l.byLabel then throw (.duplicateLabel "label" label)
  else set (l.push a label (Bool.eq_false_iff.mpr hv) hl)

def remove (a : α) : Change α (Option String) := do
  let l ← get
  set (l.erase a)
  return l.label? a

def clear : Change α Unit := set (empty : Labels α)

def addAll [Legible α] (ls : List (ValueLabel α)) : Change α Unit :=
  ls.forM fun l => add l.value l.label

def ofList [Legible α] (ls : List (ValueLabel α)) : Result (Labels α) :=
  match (addAll ls).run empty with
  | .ok _ l => .ok l
  | .error e _ => .error e

instance : BEq (Labels α) := ⟨fun l m => l.byLabel.sameContents (· == ·) m.byLabel⟩

def inspect [Legible α] (l : Labels α) : String :=
  inspectMap (l.toList.map fun e => (Columnar.inspect e.value, Columnar.inspect e.label))

instance [Legible α] [Codec α] : Codec (Labels α) where
  encode l := encode l.toList
  decode source v := do
    let ls : List (ValueLabel α) ← decode source v
    Json.accept (ofList ls)

end Labels

end Columnar
