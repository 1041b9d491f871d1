import Columnar.Json.Basic
import Columnar.Decimal.Digits

/-! Every text has a reading. Where it is not JSON, that is what stands before the fault. -/

namespace Columnar.Json

def isBlank (c : Char) : Bool := c == ' ' || c == '\n' || c == '\t' || c == '\r'

def skipBlanks (s : List Char) : List Char := s.dropWhile isBlank

inductive Piece where
  | char (c : Char)
  | unit (n : Nat)

def hexValue? (c : Char) : Option Nat :=
  if '0' ≤ c && c ≤ '9' then some (c.toNat - 48)
  else if 'a' ≤ c && c ≤ 'f' then some (c.toNat - 87)
  else if 'A' ≤ c && c ≤ 'F' then some (c.toNat - 55)
  else none

def unit? (a b c d : Char) : Option Nat := do
  return 4096 * (← hexValue? a) + 256 * (← hexValue? b) + 16 * (← hexValue? c) + (← hexValue? d)

def unescape? : Char → Option Char
  | '"' => some '"'
  | '\\' => some '\\'
  | '/' => some '/'
  | 'b' => some '\x08'
  | 'f' => some '\x0c'
  | 'n' => some '\n'
  | 'r' => some '\r'
  | 't' => some '\t'
  | _ => none

def readPieces : List Char → Option (List Piece × List Char)
  | [] => none
  | '"' :: r => some ([], r)
  | '\\' :: 'u' :: a :: b :: c :: d :: r => do
    let n ← unit? a b c d
    let (ps, r) ← readPieces r
    return (.unit n :: ps, r)
  | '\\' :: e :: r => do
    let c ← unescape? e
    let (ps, r) ← readPieces r
    return (.char c :: ps, r)
  | c :: r =>
    if c.toNat < 0x20 then none
    else do
      let (ps, r) ← readPieces r
      return (.char c :: ps, r)

def joinPieces? : List Piece → Option (List Char)
  | [] => some []
  | .char c :: ps => (joinPieces? ps).map (c :: ·)
  | .unit m :: .unit n :: ps =>
    if 0xD800 ≤ m && m < 0xDC00 then
      if 0xDC00 ≤ n && n < 0xE000 then
        (joinPieces? ps).map (Char.ofNat (0x10000 + (m - 0xD800) * 0x400 + (n - 0xDC00)) :: ·)
      else none
    else if 0xDC00 ≤ m && m < 0xE000 then none
    else (joinPieces? (.unit n :: ps)).map (Char.ofNat m :: ·)
  | .unit m :: ps =>
    if 0xD800 ≤ m && m < 0xE000 then none else (joinPieces? ps).map (Char.ofNat m :: ·)

def readString (s : List Char) : Option (Option String × List Char) :=
  (readPieces s).map fun (ps, r) => ((joinPieces? ps).map String.ofList, r)

def takeDigits (s : List Char) : List Char × List Char :=
  (s.takeWhile Char.isDigit, s.dropWhile Char.isDigit)

def readWhole (s : List Char) : Option (List Char × List Char) :=
  match takeDigits s with
  | ([], _) => none
  | ('0' :: _ :: _, _) => none
  | (ds, r) => some (ds, r)

def readFraction : List Char → Option (List Char × List Char)
  | '.' :: r =>
    match takeDigits r with
    | ([], _) => none
    | (ds, r) => some (ds, r)
  | r => some ([], r)

def readExponent : List Char → Option (Option (List Char) × List Char)
  | c :: r =>
    if c == 'e' || c == 'E' then
      let (sign, r) := match r with
        | '+' :: r => (['+'], r)
        | '-' :: r => (['-'], r)
        | r => ([], r)
      match takeDigits r with
      | ([], _) => none
      | (ds, r) => some (some (sign ++ ds), r)
    else some (none, c :: r)
  | [] => some (none, [])

def readTail (negative : Bool) (whole s : List Char) : Option (Numeral × List Char) := do
  let (fraction, r) ← readFraction s
  let (exponent, r) ← readExponent r
  return (⟨negative, whole, fraction, exponent⟩, r)

/-- Reads a number. One that goes wrong behind its whole digits has only these, and nothing is left
of the text. -/
def readNumber (s : List Char) : Option (Numeral × Option (List Char)) := do
  let (negative, r) := match s with
    | '-' :: r => (true, r)
    | s => (false, s)
  let (whole, r) ← readWhole r
  match readTail negative whole r with
  | some (n, r) => return (n, some r)
  | none => return (⟨negative, whole, [], none⟩, none)

mutual

/-- Reads a value and what stands behind it. Each level of the bound stands for a value or for a
place in an array or object, so a bound above twice the length of the text is never reached. -/
def readValue : Nat → List Char → Json × Option (List Char)
  | 0, _ => (.malformed, none)
  | bound + 1, s =>
    match skipBlanks s with
    | 'n' :: 'u' :: 'l' :: 'l' :: r => (.null, some r)
    | 't' :: 'r' :: 'u' :: 'e' :: r => (.bool true, some r)
    | 'f' :: 'a' :: 'l' :: 's' :: 'e' :: r => (.bool false, some r)
    | '"' :: r =>
      match readString r with
      | some (s, r) => (.string s, some r)
      | none => (.malformed, none)
    | '[' :: r =>
      match skipBlanks r with
      | ']' :: r => (.array [] true, some r)
      | r => let (items, rest) := readItems bound r; (.array items rest.isSome, rest)
    | '\x7b' :: r =>
      match skipBlanks r with
      | '\x7d' :: r => (.object [] true, some r)
      | r => let (members, rest) := readMembers bound r; (.object members rest.isSome, rest)
    | r =>
      match readNumber r with
      | some (n, rest) => (.number n rest.isSome, rest)
      | none => (.malformed, none)

def readItems : Nat → List Char → List Json × Option (List Char)
  | 0, _ => ([], none)
  | bound + 1, s =>
    match readValue bound s with
    | (v, none) => ([v], none)
    | (v, some r) =>
      match skipBlanks r with
      | ',' :: r => let (vs, rest) := readItems bound r; (v :: vs, rest)
      | ']' :: r => ([v], some r)
      | _ => ([v], none)

def readMembers : Nat → List Char → List (Option String × Json) × Option (List Char)
  | 0, _ => ([], none)
  | bound + 1, s =>
    match skipBlanks s with
    | '"' :: r =>
      match readString r with
      | none => ([], none)
      | some (k, r) =>
        match skipBlanks r with
        | ':' :: r =>
          match readValue bound r with
          | (v, none) => ([(k, v)], none)
          | (v, some r) =>
            match skipBlanks r with
            | ',' :: r => let (ms, rest) := readMembers bound r; ((k, v) :: ms, rest)
            | '\x7d' :: r => ([(k, v)], some r)
            | _ => ([(k, v)], none)
        | _ => ([(k, .malformed)], none)
    | _ => ([], none)

end

def read (s : List Char) : Json × Bool :=
  match readValue (2 * s.length + 2) s with
  | (v, none) => (v, false)
  | (v, some r) => (v, (skipBlanks r).isEmpty)

end Columnar.Json
