import Columnar.Scalar.Number
import Columnar.Decimal.Digits

namespace Columnar.Decimal

def takeSign : List Char → Bool × List Char
  | '+' :: r => (false, r)
  | '-' :: r => (true, r)
  | s => (false, s)

def takeDigits (s : List Char) : List Char × List Char :=
  (s.takeWhile Char.isDigit, s.dropWhile Char.isDigit)

def readInt? (signed : Bool) (s : List Char) : Option Int :=
  let (negative, ds) := takeSign s
  if ds.isEmpty || !ds.all Char.isDigit || (negative && !signed) then none
  else some (if negative then -(value ds : Int) else value ds)

def readExponent? : List Char → Option Int
  | [] => some 0
  | c :: r =>
    if c = 'e' || c = 'E' then
      let (negative, ds) := takeSign r
      if ds.isEmpty || !ds.all Char.isDigit then none
      else some (if negative then -(value ds : Int) else value ds)
    else none

def readDecimal? (s : List Char) : Option (Nat × Int) :=
  let (whole, r) := takeDigits s
  let (fraction, r) := match r with
    | '.' :: r => takeDigits r
    | r => ([], r)
  if whole.isEmpty && fraction.isEmpty then none
  else (readExponent? r).map fun e => (value (whole ++ fraction), e - fraction.length)

variable {α : Type} [Floating α]

def nearest (n : Nat) (e : Int) : α :=
  let leading := e + (digits n).length
  if n = 0 then Floating.zero
  else if 400 < leading then Floating.infinity
  else if leading < -400 then Floating.zero
  else if 0 ≤ e then Floating.scaled (n * Nat.pow 10 e.toNat) 0
  else Floating.scaled n (-e).toNat

def readUnsigned? (s : List Char) : Option α :=
  let lower := s.map Char.toLower
  if lower = ['i', 'n', 'f'] || lower = "infinity".toList then some Floating.infinity
  else if lower = ['n', 'a', 'n'] then some Floating.nan
  else (readDecimal? s).map fun (n, e) => nearest n e

def readFloating? (s : List Char) : Option α :=
  let (negative, r) := takeSign s
  (readUnsigned? r).map fun x => if negative then -x else x

end Columnar.Decimal
