namespace Dialogue.Text

/-- A set of code points as a list of first and last members of ranges. -/
abbrev Ranges := List (Nat × Nat)

namespace Ranges

def contains (ranges : Ranges) (n : Nat) : Bool :=
  ranges.any fun r => r.1 ≤ n && n ≤ r.2

def hexDigit (c : Char) : Nat :=
  if '0' ≤ c ∧ c ≤ '9' then c.toNat - '0'.toNat else c.toNat - 'a'.toNat + 10

/-- Reads ranges such as `41-5a 61-7a aa`: hexadecimal ends, a single code point standing for
itself. `low` is the first end once a `-` has been passed, `here` the number being read. -/
def readFrom (low : Option Nat) (here : Nat) : List Char → Ranges
  | [] => [(low.getD here, here)]
  | c :: rest =>
    if c = ' ' then (low.getD here, here) :: readFrom none 0 rest
    else if c = '-' then readFrom (some here) 0 rest
    else readFrom low (16 * here + hexDigit c) rest

def read (text : String) : Ranges :=
  if text.isEmpty then [] else readFrom none 0 text.toList

def ofLines (lines : List String) : Ranges := lines.flatMap read

example : read "41-5a 61-7a aa" = [(0x41, 0x5A), (0x61, 0x7A), (0xAA, 0xAA)] := by decide +kernel

end Ranges

end Dialogue.Text
