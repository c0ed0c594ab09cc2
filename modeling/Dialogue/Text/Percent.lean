namespace Dialogue.Percent

def digit (n : Nat) : Char := Char.ofNat (if n < 10 then '0'.toNat + n else 'A'.toNat + (n - 10))

def digit? (c : Char) : Option Nat :=
  if c.isDigit then some (c.toNat - '0'.toNat)
  else if 'a' ≤ c ∧ c ≤ 'f' then some (c.toNat - 'a'.toNat + 10)
  else if 'A' ≤ c ∧ c ≤ 'F' then some (c.toNat - 'A'.toNat + 10)
  else none

def escapedByte (b : UInt8) : List Char := ['%', digit (b.toNat / 16), digit (b.toNat % 16)]

def encodeChar (escape : Char → Bool) (c : Char) : List Char :=
  if escape c then (String.utf8EncodeChar c).flatMap escapedByte else [c]

def encode (escape : Char → Bool) (cs : List Char) : List Char := cs.flatMap (encodeChar escape)

/-- The bytes of a text; a percent sign without digits stands for itself. -/
def decodeBytes : List Char → List UInt8
  | [] => []
  | [c] => String.utf8EncodeChar c
  | [c, d] => String.utf8EncodeChar c ++ String.utf8EncodeChar d
  | c :: a :: b :: rest =>
    match c, digit? a, digit? b with
    | '%', some x, some y => UInt8.ofNat (16 * x + y) :: decodeBytes rest
    | c, _, _ => String.utf8EncodeChar c ++ decodeBytes (a :: b :: rest)

def decode? (cs : List Char) : Option String := String.fromUTF8? ⟨(decodeBytes cs).toArray⟩

end Dialogue.Percent
