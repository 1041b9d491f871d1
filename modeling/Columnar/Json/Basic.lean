import Columnar.Decimal.Numeral

/-! A text that goes wrong at some place is still a value up to there, so whoever reads the value in
order meets the faults of the text and those of the data in the order of the text. -/

namespace Columnar

inductive Json where
  | null
  | bool (b : Bool)
  | number (n : Numeral) (closed : Bool)
  /-- Without contents if an escape is half of a character. -/
  | string (s : Option String)
  | array (items : List Json) (closed : Bool)
  | object (members : List (Option String × Json)) (closed : Bool)
  | malformed

namespace Json

def ofString (s : String) : Json := .string (some s)

def ofNumeral (n : Numeral) : Json := .number n true

def ofInt (x : Int) : Json := .ofNumeral (.ofInt x)

def ofList (items : List Json) : Json := .array items true

def ofMembers (members : List (String × Json)) : Json :=
  .object (members.map fun (k, v) => (some k, v)) true

mutual

def isWhole : Json → Bool
  | .number _ closed => closed
  | .array items closed => closed && areWhole items
  | .object members closed => closed && membersAreWhole members
  | .malformed => false
  | _ => true

def areWhole : List Json → Bool
  | [] => true
  | v :: vs => v.isWhole && areWhole vs

def membersAreWhole : List (Option String × Json) → Bool
  | [] => true
  | (_, v) :: ms => v.isWhole && membersAreWhole ms

end

end Json

end Columnar
