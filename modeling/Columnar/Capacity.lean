import Columnar.Error

/-! Data that are given by their size alone are refused if their buffer would be too large. -/

namespace Columnar

class Stored (α : Type) where
  bytes : Nat

namespace Capacity

def checkBuffer (α : Type) [Stored α] (n : Nat) : Except OutOfBounds Unit :=
  if n * Stored.bytes α < Nat.pow 2 63 then .ok () else .error .buffer

/-- A table has at most `2 ^ 59` slots, of which an eighth stays free. -/
def checkTable (n : Nat) : Except OutOfBounds Unit :=
  if 8 * n / 7 ≤ Nat.pow 2 59 then .ok () else .error .table

end Capacity

end Columnar
