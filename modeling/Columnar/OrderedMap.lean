/-! Maps that keep their entries in the order in which the names first arrived. -/

namespace Columnar

structure OrderedMap (α : Type) where
  entries : List (String × α)
  nodup : (entries.map Prod.fst).Nodup

namespace OrderedMap

variable {α : Type}

def empty : OrderedMap α := ⟨[], by simp⟩

instance : EmptyCollection (OrderedMap α) := ⟨empty⟩

def keys (m : OrderedMap α) : List String := m.entries.map Prod.fst

def values (m : OrderedMap α) : List α := m.entries.map Prod.snd

def size (m : OrderedMap α) : Nat := m.entries.length

def isEmpty (m : OrderedMap α) : Bool := m.entries.isEmpty

instance : Membership String (OrderedMap α) := ⟨fun m k => k ∈ m.keys⟩

instance (m : OrderedMap α) (k : String) : Decidable (k ∈ m) :=
  inferInstanceAs (Decidable (k ∈ m.keys))

def find? (m : OrderedMap α) (k : String) : Option α := m.entries.lookup k

def push (m : OrderedMap α) (k : String) (a : α) (h : k ∉ m) : OrderedMap α where
  entries := m.entries ++ [(k, a)]
  nodup := by
    rw [List.map_append, List.nodup_append]
    refine ⟨m.nodup, by simp, ?_⟩
    intro x hx y hy hxy
    simp only [List.map_cons, List.map_nil, List.mem_singleton] at hy
    subst hxy hy
    exact h hx

def mapValues {β : Type} (m : OrderedMap α) (f : String → α → β) : OrderedMap β where
  entries := m.entries.map fun (k, a) => (k, f k a)
  nodup := by
    rw [List.map_map]
    exact m.nodup

def insert (m : OrderedMap α) (k : String) (a : α) : OrderedMap α :=
  if h : k ∈ m then m.mapValues fun k' a' => if k' = k then a else a' else m.push k a h

def erase (m : OrderedMap α) (k : String) : OrderedMap α where
  entries := m.entries.filter fun e => e.1 ≠ k
  nodup := (m.nodup.sublist ((List.filter_sublist).map _))

theorem not_mem_erase {m : OrderedMap α} {k : String} (h : k ∉ m) (gone : String) :
    k ∉ m.erase gone := fun hk => h ((List.filter_sublist.map _).subset hk)

def indexOf? (m : OrderedMap α) (k : String) : Option Nat :=
  m.entries.findIdx? fun e => e.1 == k

def insertAt (m : OrderedMap α) (place : Nat) (k : String) (a : α) (h : k ∉ m) : OrderedMap α where
  entries := m.entries.take place ++ (k, a) :: m.entries.drop place
  nodup := by
    rw [List.map_append, List.map_cons, List.perm_middle.nodup_iff, ← List.map_append,
      List.take_append_drop, List.nodup_cons]
    exact ⟨h, m.nodup⟩

def ofList (es : List (String × α)) : OrderedMap α :=
  es.foldl (fun m (k, a) => m.insert k a) empty

def sameEntries (eq : α → α → Bool) (m n : OrderedMap α) : Bool :=
  m.size == n.size
    && (m.entries.zip n.entries).all fun ((k, a), (k', a')) => k == k' && eq a a'

def sameContents (eq : α → α → Bool) (m n : OrderedMap α) : Bool :=
  m.size == n.size && m.entries.all fun (k, a) =>
    match n.find? k with
    | some b => eq a b
    | none => false

end OrderedMap

end Columnar
