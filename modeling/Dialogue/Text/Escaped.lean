import Dialogue.Text.Category
import Dialogue.Text.Property

namespace Dialogue.Text

/-- Whether a character shows: it has a meaning, it is no separator but the space, and no control or
private character. -/
def isShown (c : Char) : Bool :=
  let n := c.toNat
  if n < 0x80 then 0x20 ≤ n && n < 0x7F
  else Category.assigned.contains n &&
    !(Category.cc ++ Category.cf ++ Category.co ++ Category.separator).contains n

def codeDigits (n : Nat) : List Char := Nat.toDigits 16 n

def escapedChar (c : Char) : List Char :=
  if c = '"' then ['\\', '"']
  else if c = '\\' then ['\\', '\\']
  else if c = '\n' then ['\\', 'n']
  else if c = '\r' then ['\\', 'r']
  else if c = '\t' then ['\\', 't']
  else if c.toNat = 0 then ['\\', '0']
  else if Property.graphemeExtend.contains c.toNat || !isShown c then
    ['\\', 'u', '\x7b'] ++ codeDigits c.toNat ++ ['\x7d']
  else [c]

def escaped (s : String) : String :=
  String.ofList ('"' :: s.toList.flatMap escapedChar ++ ['"'])

end Dialogue.Text
