import Dialogue.Value.Basic
import Dialogue.Double.Layout

namespace Dialogue

/-- Values are written with plain digits from 0.00001 up to below 10 ^ 16, and with a signed
exponent beyond. -/
def Value.layout : Double.Layout := ⟨-5, 16, true⟩

namespace Number

def chars : Number → List Char
  | .integer n => Double.intChars n
  | .double d => Value.layout.chars d

end Number

namespace Value

def hexChar (n : Nat) : Char :=
  if n < 10 then Char.ofNat ('0'.toNat + n) else Char.ofNat ('a'.toNat + (n - 10))

/-- A character inside quotes: quotes, backslashes and control characters are escaped. -/
def escapeChar (c : Char) : List Char :=
  if c = '"' then ['\\', '"']
  else if c = '\\' then ['\\', '\\']
  else if c = '\x08' then ['\\', 'b']
  else if c = '\x0c' then ['\\', 'f']
  else if c = '\n' then ['\\', 'n']
  else if c = '\r' then ['\\', 'r']
  else if c = '\t' then ['\\', 't']
  else if c.toNat < 0x20 then
    ['\\', 'u', '0', '0', hexChar (c.toNat / 16), hexChar (c.toNat % 16)]
  else [c]

def quote (s : List Char) : List Char := '"' :: s.flatMap escapeChar ++ ['"']

mutual
def chars : Value → List Char
  | .null => ['n', 'u', 'l', 'l']
  | .bool true => ['t', 'r', 'u', 'e']
  | .bool false => ['f', 'a', 'l', 's', 'e']
  | .number n => n.chars
  | .text s => quote s.toList
  | .list items => '[' :: listChars items ++ [']']
  | .object fields => '\x7b' :: fieldChars fields ++ ['\x7d']

def listChars : List Value → List Char
  | [] => []
  | [v] => chars v
  | v :: rest => chars v ++ ',' :: listChars rest

def fieldChars : List (String × Value) → List Char
  | [] => []
  | [(k, v)] => quote k.toList ++ ':' :: chars v
  | (k, v) :: rest => quote k.toList ++ ':' :: chars v ++ ',' :: fieldChars rest
end

def render (v : Value) : String := String.ofList v.chars

/-- A value as it is shown to a person: scalars bare, lists of scalars with commas between,
everything else as compact text. -/
def display : Value → String
  | .null => ""
  | .text s => s
  | .list items =>
    if items.all isScalar then ", ".intercalate (items.map scalarText) else render (.list items)
  | v => render v
where
  /-- The bare text of a scalar. -/
  scalarText : Value → String
    | .null => ""
    | .text s => s
    | v => render v

end Value

end Dialogue
