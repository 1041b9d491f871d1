
namespace Columnar

inductive Width where
  | w8 | w16 | w32 | w64 | w128
deriving DecidableEq

def Width.bits : Width → Nat
  | w8 => 8
  | w16 => 16
  | w32 => 32
  | w64 => 64
  | w128 => 128

structure IntegerType where
  signed : Bool
  width : Width
deriving DecidableEq

namespace IntegerType

abbrev int8 : IntegerType := ⟨true, .w8⟩
abbrev int16 : IntegerType := ⟨true, .w16⟩
abbrev int32 : IntegerType := ⟨true, .w32⟩
abbrev int64 : IntegerType := ⟨true, .w64⟩
abbrev int128 : IntegerType := ⟨true, .w128⟩
abbrev uint8 : IntegerType := ⟨false, .w8⟩
abbrev uint16 : IntegerType := ⟨false, .w16⟩
abbrev uint32 : IntegerType := ⟨false, .w32⟩
abbrev uint64 : IntegerType := ⟨false, .w64⟩
abbrev uint128 : IntegerType := ⟨false, .w128⟩

def modulus (t : IntegerType) : Int := (Nat.pow 2 t.width.bits : Nat)

def least (t : IntegerType) : Int :=
  if t.signed then -(Nat.pow 2 (t.width.bits - 1) : Nat) else 0

def greatest (t : IntegerType) : Int := t.least + t.modulus - 1

def Fits (t : IntegerType) (x : Int) : Prop := t.least ≤ x ∧ x ≤ t.greatest

instance (t : IntegerType) (x : Int) : Decidable (t.Fits x) :=
  inferInstanceAs (Decidable (t.least ≤ x ∧ x ≤ t.greatest))

theorem modulus_pos (t : IntegerType) : 0 < t.modulus := by
  rcases t with ⟨s, w⟩
  cases s <;> cases w <;> decide

theorem fits_zero (t : IntegerType) : t.Fits 0 := by
  rcases t with ⟨s, w⟩
  cases s <;> cases w <;> decide

theorem fits_one (t : IntegerType) : t.Fits 1 := by
  rcases t with ⟨s, w⟩
  cases s <;> cases w <;> decide

end IntegerType

def littleEndian (count n : Nat) : List Nat :=
  (List.range count).map fun i => n / Nat.pow 256 i % 256

structure Fixed (t : IntegerType) where
  val : Int
  fits : t.Fits val
deriving DecidableEq

namespace Fixed

variable {t : IntegerType}

def ofInt? (t : IntegerType) (x : Int) : Option (Fixed t) :=
  if h : t.Fits x then some ⟨x, h⟩ else none

def wrap (t : IntegerType) (x : Int) : Fixed t where
  val := t.least + (x - t.least) % t.modulus
  fits := by
    have hm := t.modulus_pos
    have h0 := Int.emod_nonneg (x - t.least) (Int.ne_of_gt hm)
    have h1 := Int.emod_lt_of_pos (x - t.least) hm
    simp only [IntegerType.Fits, IntegerType.greatest]
    omega

def zero : Fixed t := ⟨0, t.fits_zero⟩

def one : Fixed t := ⟨1, t.fits_one⟩

def least (t : IntegerType) : Fixed t where
  val := t.least
  fits := by
    have := t.modulus_pos
    simp only [IntegerType.Fits, IntegerType.greatest]
    omega

def greatest (t : IntegerType) : Fixed t where
  val := t.greatest
  fits := by
    have := t.modulus_pos
    simp only [IntegerType.Fits, IntegerType.greatest]
    omega

def add (a b : Fixed t) : Fixed t := wrap t (a.val + b.val)

def sub (a b : Fixed t) : Fixed t := wrap t (a.val - b.val)

def mul (a b : Fixed t) : Fixed t := wrap t (a.val * b.val)

def div (a b : Fixed t) : Fixed t := wrap t (a.val.tdiv b.val)

def checkedAdd (a b : Fixed t) : Option (Fixed t) := ofInt? t (a.val + b.val)

def checkedSub (a b : Fixed t) : Option (Fixed t) := ofInt? t (a.val - b.val)

def checkedMul (a b : Fixed t) : Option (Fixed t) := ofInt? t (a.val * b.val)

def checkedDiv (a b : Fixed t) : Option (Fixed t) :=
  if b.val = 0 then none else ofInt? t (a.val.tdiv b.val)

def succ (a : Fixed t) : Fixed t := (ofInt? t (a.val + 1)).getD a

def bytes (a : Fixed t) : List Nat :=
  littleEndian (t.width.bits / 8) (a.val % t.modulus).toNat

@[ext] theorem ext {a b : Fixed t} (h : a.val = b.val) : a = b := by
  cases a; cases b; cases h; rfl

instance : Inhabited (Fixed t) := ⟨zero⟩

end Fixed

end Columnar
