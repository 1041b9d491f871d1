import Columnar.Json.Basic
import Columnar.Text.Quoted

namespace Columnar.Json

def escapeChar (c : Char) : List Char :=
  match c with
  | '"' => ['\\', '"']
  | '\\' => ['\\', '\\']
  | '\x08' => ['\\', 'b']
  | '\t' => ['\\', 't']
  | '\n' => ['\\', 'n']
  | '\x0c' => ['\\', 'f']
  | '\r' => ['\\', 'r']
  | c =>
    if c.toNat < 0x20 then
      ['\\', 'u', '0', '0', Text.hexDigit (c.toNat / 16), Text.hexDigit (c.toNat % 16)]
    else [c]

def renderString (s : String) : List Char := '"' :: s.toList.flatMap escapeChar ++ ['"']

mutual

def render : Json → List Char
  | .null => ['n', 'u', 'l', 'l']
  | .bool b => if b then ['t', 'r', 'u', 'e'] else ['f', 'a', 'l', 's', 'e']
  | .number n _ => n.text
  | .string s => renderString (s.getD "")
  | .array items _ => '[' :: renderItems items ++ [']']
  | .object members _ => '\x7b' :: renderMembers members ++ ['\x7d']
  | .malformed => []

def renderItems : List Json → List Char
  | [] => []
  | [v] => v.render
  | v :: vs => v.render ++ ',' :: renderItems vs

def renderMembers : List (Option String × Json) → List Char
  | [] => []
  | [(k, v)] => renderString (k.getD "") ++ ':' :: v.render
  | (k, v) :: ms => renderString (k.getD "") ++ ':' :: v.render ++ ',' :: renderMembers ms

end

def text (v : Json) : String := String.ofList v.render

end Columnar.Json
