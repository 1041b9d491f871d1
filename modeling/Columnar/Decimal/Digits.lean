
namespace Columnar.Decimal

def digitChar (d : Nat) : Char := Char.ofNat (48 + d)

def digitValue (c : Char) : Nat := c.toNat - 48

def digits (n : Nat) : List Char :=
  if n < 10 then [digitChar n] else digits (n / 10) ++ [digitChar (n % 10)]

def value (ds : List Char) : Nat := ds.foldl (fun n c => 10 * n + digitValue c) 0

def signed (x : Int) : List Char :=
  if x < 0 then '-' :: digits x.natAbs else digits x.natAbs

def padded (width : Nat) (x : Int) : List Char :=
  let sign := if x < 0 then ['-'] else []
  let body := digits x.natAbs
  sign ++ List.replicate (width - sign.length - body.length) '0' ++ body

def ofNat (n : Nat) : String := String.ofList (digits n)

def ofInt (x : Int) : String := String.ofList (signed x)

def zeroPadded (width : Nat) (x : Int) : String := String.ofList (padded width x)

def listed (xs : List Nat) : String :=
  "[" ++ String.intercalate ", " (xs.map ofNat) ++ "]"

end Columnar.Decimal
