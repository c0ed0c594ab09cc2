namespace Dialogue.Yaml

structure Cursor where
  rest : List Char
  index : Nat := 0
  line : Nat := 0
  column : Nat := 0

def isBreak (c : Char) : Bool :=
  c = '\n' || c = '\r' || c = '\u0085' || c = '\u2028' || c = '\u2029'

def isBlank (c : Char) : Bool := c = ' ' || c = '\t'

def isPrintable (c : Char) : Bool :=
  let n := c.toNat
  n == 0x9 || n == 0xA || n == 0xD || (0x20 ≤ n && n ≤ 0x7E) || n == 0x85 ||
    (0xA0 ≤ n && n ≤ 0xFFFD) || 0x10000 ≤ n

namespace Cursor

def peek (c : Cursor) : Option Char := c.rest.head?

def peekAt (c : Cursor) (k : Nat) : Option Char := c.rest[k]?

def isGap : Option Char → Bool
  | none => true
  | some c => isBlank c || isBreak c

def isLineEnd : Option Char → Bool
  | none => true
  | some c => isBreak c

def next (c : Cursor) : Cursor :=
  match c.rest with
  | [] => c
  | _ :: rest => { rest := rest, index := c.index + 1, line := c.line, column := c.column + 1 }

def skip : Nat → Cursor → Cursor
  | 0, c => c
  | k + 1, c => skip k c.next

def nextLine (c : Cursor) : Cursor × List Char :=
  match c.rest with
  | '\r' :: '\n' :: rest => (⟨rest, c.index + 2, c.line + 1, 0⟩, ['\n'])
  | b :: rest =>
    (⟨rest, c.index + 1, c.line + 1, 0⟩, if b = '\u2028' ∨ b = '\u2029' then [b] else ['\n'])
  | [] => (c, [])

def atDocumentMark (c : Cursor) : Bool :=
  c.column == 0 && (['-', '-', '-'].isPrefixOf c.rest || ['.', '.', '.'].isPrefixOf c.rest) &&
    isGap (c.peekAt 3)

def toLineEnd : Nat → Cursor → Cursor
  | 0, c => c
  | fuel + 1, c => if isLineEnd c.peek then c else toLineEnd fuel c.next

def skipBlanks : Nat → Cursor → Cursor
  | 0, c => c
  | fuel + 1, c => if c.peek.any isBlank then skipBlanks fuel c.next else c

end Cursor

end Dialogue.Yaml
