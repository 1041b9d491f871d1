import Columnar.Json.Fault
import Columnar.Json.Printer
import Columnar.Json.Quantity
import Columnar.Scalar.Text

/-! A value is read either directly or from a buffer, which has taken in the whole of an enclosing
value first and keeps no integer of more than 64 bits. -/

namespace Columnar

namespace Json

inductive Source where
  | direct
  | buffered
deriving DecidableEq

def depthLimit : Nat := 127

mutual

/-- A buffer takes in the value: all strings are characters, all numbers in range, and no array or
object lies deeper than the limit. -/
def buffers : Nat → Json → Bool
  | _, .number n closed => closed && (quantity? n).isSome
  | _, .string s => s.isSome
  | depth, .array items closed => 0 < depth && closed && buffersItems (depth - 1) items
  | depth, .object members closed => 0 < depth && closed && buffersMembers (depth - 1) members
  | _, .malformed => false
  | _, _ => true

def buffersItems : Nat → List Json → Bool
  | _, [] => true
  | depth, v :: vs => buffers depth v && buffersItems depth vs

def buffersMembers : Nat → List (Option String × Json) → Bool
  | _, [] => true
  | depth, (k, v) :: ms => k.isSome && buffers depth v && buffersMembers depth ms

end

def buffer (source : Source) (v : Json) : Decoded Json :=
  match source with
  | .buffered => .ok v
  | .direct => if buffers depthLimit v then .ok v else .error .unreadable

def decodeItems {α : Type} (decode : Json → Decoded α) : List Json → Decoded (List α)
  | [] => .ok []
  | v :: vs => do
    let a ← decode v
    let as ← decodeItems decode vs
    return a :: as

def decodeList {α : Type} (decode : Json → Decoded α) : Json → Decoded (List α)
  | .array items closed => do
    let as ← decodeItems decode items
    if closed then return as else throw .unreadable
  | _ => .error .unreadable

def decodeOption {α : Type} (decode : Json → Decoded α) : Json → Decoded (Option α)
  | .null => .ok none
  | v => (decode v).map some

def encodeOption {α : Type} (encode : α → Json) : Option α → Json
  | none => .null
  | some a => encode a

def decodeName {α : Type} (names : List (String × α)) : Json → Decoded α
  | .string (some s) => find s
  | .object [(some s, .null)] true => find s
  | _ => .error .unreadable
where
  find (s : String) : Decoded α :=
    match names.lookup s with
    | some a => .ok a
    | none => .error .unreadable

structure RecordField (σ : Type) where
  name : String
  read : Source → Json → σ → Decoded σ
  absent : σ → Decoded σ := fun _ => .error .unreadable
  cut : σ → Decoded σ := fun _ => .error .unreadable

variable {σ : Type}

def readPositions (source : Source) (closed : Bool) :
    List (RecordField σ) → List Json → σ → Decoded σ
  | [], [], acc => if closed then .ok acc else .error .unreadable
  | [], _ :: _, _ => .error .unreadable
  | field :: fields, [], acc => do
    if closed then
      let acc ← field.cut acc
      readPositions source closed fields [] acc
    else throw .unreadable
  | field :: fields, v :: vs, acc => do
    let acc ← field.read source v acc
    readPositions source closed fields vs acc

/-- Reads the fields from the members of an object. A field may stand anywhere but not twice; other
members are passed over. -/
def readMembersOf (source : Source) (closed : Bool) (fields : List (RecordField σ)) :
    List String → List (Option String × Json) → σ → Decoded σ
  | seen, [], acc =>
    if closed then
      (fields.filter fun f => !seen.contains f.name).foldlM (fun acc f => f.absent acc) acc
    else .error .unreadable
  | _, (none, _) :: _, _ => .error .unreadable
  | seen, (some name, v) :: members, acc =>
    match fields.find? fun f => f.name == name with
    | none =>
      if v.isWhole then readMembersOf source closed fields seen members acc
      else .error .unreadable
    | some field => do
      if seen.contains name then throw .unreadable
      let acc ← field.read source v acc
      readMembersOf source closed fields (name :: seen) members acc

def decodeRecord (fields : List (RecordField σ)) (start : σ) (source : Source) : Json → Decoded σ
  | .array items closed => readPositions source closed fields items start
  | .object members closed => readMembersOf source closed fields [] members start
  | _ => .error .unreadable

end Json

class Codec (α : Type) where
  encode : α → Json
  decode : Json.Source → Json → Json.Decoded α
  /-- Reads a value that may be followed by something that does not belong there, and says whether
  the text ends with the value. -/
  decodeFront : Json.Source → Json → Json.Decoded (α × Bool) := fun source v =>
    (decode source v).map (·, true)

export Codec (encode decode decodeFront)

namespace Codec

variable {α : Type} [Codec α]

def toText (a : α) : String := (encode a).text

def ofText (s : String) : Json.Decoded α := do
  let (v, clean) := Json.read s.toList
  let a ← decode .direct v
  if clean then return a else throw .unreadable

end Codec

instance {α : Type} [Codec α] : Codec (List α) where
  encode as := .ofList (as.map encode)
  decode source := Json.decodeList (decode source)

namespace Fixed

variable {t : IntegerType}

def wide? (t : IntegerType) (source : Json.Source) (n : Numeral) : Option (Fixed t) :=
  if source = .direct && (t.signed || !n.negative) then
    Fixed.ofInt? t (if n.negative then -(Decimal.value n.whole : Int) else Decimal.value n.whole)
  else none

def front? (t : IntegerType) (source : Json.Source) : Json → Option (Fixed t × Bool)
  | .number n closed =>
    if t.width = .w128 then
      (wide? t source n).map (·, closed && n.fraction.isEmpty && n.exponent.isNone)
    else if closed then
      match Json.quantity? n with
      | some (.integer x) => (Fixed.ofInt? t x).map (·, true)
      | _ => none
    else none
  | _ => none

def decode? (t : IntegerType) (source : Json.Source) (v : Json) : Option (Fixed t) :=
  match front? t source v with
  | some (a, true) => some a
  | _ => none

end Fixed

def Json.orUnreadable {α : Type} : Option α → Json.Decoded α
  | some a => .ok a
  | none => .error .unreadable

instance (t : IntegerType) : Codec (Fixed t) where
  encode a := .ofInt a.val
  decode source v := Json.orUnreadable (Fixed.decode? t source v)
  decodeFront source v := Json.orUnreadable (Fixed.front? t source v)

def Json.decodeSize (source : Source) (v : Json) : Decoded Nat :=
  orUnreadable ((Fixed.decode? .uint64 source v).map fun n => n.val.toNat)

namespace Floating

variable {α : Type} [Floating α]

def jsonStyle (f : BinaryFormat) : Decimal.Style where
  inPlace := if f = .binary32 then some (-6, 13) else some (-5, 16)
  pointZero := true
  plus := true
  tie := .even

def encode (a : α) : Json :=
  match exact a with
  | .finite negative m e => .ofNumeral (write α (jsonStyle (format α)) negative m e)
  | _ => .null

def decode? : Json → Option α
  | .number n true =>
    (Json.quantity? n).map fun
      | .integer x => round (.ofInt x)
      | .real x => round (exact x)
  | _ => none

end Floating

instance {α : Type} [Floating α] : Codec α where
  encode := Floating.encode
  decode _ v := Json.orUnreadable (Floating.decode? v)

instance : (t : NumberType) → Codec t.Carrier
  | .integer t => inferInstanceAs (Codec (Fixed t))
  | .binary32 => inferInstanceAs (Codec Float32)
  | .binary64 => inferInstanceAs (Codec Float)

instance : Codec Bool where
  encode := .bool
  decode
    | _, .bool b => .ok b
    | _, _ => .error .unreadable

instance : Codec String where
  encode := .ofString
  decode
    | _, .string (some s) => .ok s
    | _, _ => .error .unreadable

def Json.decodeChar : Json → Json.Decoded Char
  | .string (some s) =>
    match s.toList with
    | [c] => .ok c
    | _ => .error .unreadable
  | _ => .error .unreadable

instance : Codec Char where
  encode c := .ofString (String.singleton c)
  decode _ := Json.decodeChar

end Columnar
