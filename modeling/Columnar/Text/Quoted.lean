import Columnar.Text.Printable

namespace Columnar.Text

def hexDigit (d : Nat) : Char := if d < 10 then Char.ofNat (48 + d) else Char.ofNat (87 + d)

def hex (n : Nat) : List Char :=
  if n < 16 then [hexDigit n] else hex (n / 16) ++ [hexDigit (n % 16)]

def escape (mark c : Char) : List Char :=
  match c with
  | '\x00' => ['\\', '0']
  | '\t' => ['\\', 't']
  | '\r' => ['\\', 'r']
  | '\n' => ['\\', 'n']
  | '\\' => ['\\', '\\']
  | c =>
    if c = mark then ['\\', c]
    else if isExtending c || isHidden c then
      ['\\', 'u', '\x7b'] ++ hex c.toNat ++ ['\x7d']
    else [c]

def quote (mark : Char) (s : List Char) : List Char := mark :: s.flatMap (escape mark) ++ [mark]

def quoteString (s : String) : String := String.ofList (quote '"' s.toList)

def quoteChar (c : Char) : String := String.ofList (quote '\'' [c])

end Columnar.Text
