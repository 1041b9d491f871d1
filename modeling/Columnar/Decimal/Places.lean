import Columnar.Decimal.Numeral

/-! The value itself is rounded, not its shortest decimal, and a tie goes to the even neighbour. -/

namespace Columnar.Decimal

def roundEven (num den : Nat) : Nat :=
  let q := num / den
  match compare (2 * (num % den)) den with
  | .lt => q
  | .gt => q + 1
  | .eq => if q % 2 = 0 then q else q + 1

def writePlaces (places : Nat) (negative : Bool) (mantissa : Nat) (exponent : Int) : Numeral :=
  let n := roundEven (mantissa * Nat.pow 2 exponent.toNat * Nat.pow 10 places)
    (Nat.pow 2 (-exponent).toNat)
  let ds := digits n
  let ds := zeros (places + 1 - ds.length) ++ ds
  ⟨negative, ds.take (ds.length - places), ds.drop (ds.length - places), none⟩

end Columnar.Decimal
