
namespace Columnar.Text

inductive Field where
  | right (width : Nat)
  | left (width : Nat)
  | centre (width : Nat)
  | zeroFilled (width : Nat)
  | signShown
  | places (n : Nat)
deriving DecidableEq

def blanks (n : Nat) : List Char := List.replicate n ' '

def Field.align (field : Field) (s : List Char) : List Char :=
  match field with
  | .right width => blanks (width - s.length) ++ s
  | .left width => s ++ blanks (width - s.length)
  | .centre width =>
    let gap := width - s.length
    blanks (gap / 2) ++ s ++ blanks (gap - gap / 2)
  | _ => s

def Field.sign (field : Field) (negative : Bool) : List Char :=
  if negative then ['-'] else if field = .signShown then ['+'] else []

def Field.setNumber (field : Field) (sign body : List Char) : List Char :=
  match field with
  | .zeroFilled width => sign ++ List.replicate (width - sign.length - body.length) '0' ++ body
  | _ => field.align (sign ++ body)

end Columnar.Text
