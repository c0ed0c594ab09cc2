import Dialogue.Pattern.Class

namespace Dialogue

inductive Anchor where
  | textStart | textEnd
  | lineStart (crlf : Bool) | lineEnd (crlf : Bool)
  | wordBoundary (unicode : Bool) | notWordBoundary (unicode : Bool)
  | wordStart (unicode : Bool) | wordEnd (unicode : Bool)
  | wordStartHalf (unicode : Bool) | wordEndHalf (unicode : Bool)
deriving DecidableEq

/-- A pattern. A repetition has a least count and, if it is bounded, a greatest one. -/
inductive Pattern where
  | empty
  | set (s : CharSet)
  | anchor (a : Anchor)
  | seq (a b : Pattern)
  | alt (a b : Pattern)
  | rep (p : Pattern) (least : Nat) (most : Option Nat)

namespace Anchor

def isWord (unicode : Bool) : Option Char → Bool
  | some c =>
    (CharSet.ranges (if unicode then CharSet.word else CharSet.asciiWord)).contains c.toNat
  | none => false

/-- Whether the anchor holds between two characters; none stands for an end of the text. -/
def holds (a : Anchor) (before after : Option Char) : Bool :=
  match a with
  | .textStart => before.isNone
  | .textEnd => after.isNone
  | .lineStart false => before.isNone || before == some '\n'
  | .lineStart true =>
    before.isNone || before == some '\n' || (before == some '\r' && after != some '\n')
  | .lineEnd false => after.isNone || after == some '\n'
  | .lineEnd true =>
    after.isNone || after == some '\r' || (after == some '\n' && before != some '\r')
  | .wordBoundary u => isWord u before != isWord u after
  | .notWordBoundary u => isWord u before == isWord u after
  | .wordStart u => !isWord u before && isWord u after
  | .wordEnd u => isWord u before && !isWord u after
  | .wordStartHalf u => !isWord u before
  | .wordEndHalf u => !isWord u after

end Anchor

namespace Pattern

def union (a b : List Bool) : List Bool := List.zipWith (· || ·) a b

def atAnchor (a : Anchor) (before : Option Char) : List Char → List Bool → List Bool
  | [], [m] => [m && a.holds before none]
  | c :: rest, m :: marks => (m && a.holds before (some c)) :: atAnchor a (some c) rest marks
  | _, _ => []

/-- The positions after one character of a set; `arrived` tells whether the first position is
reached. -/
def past (s : CharSet) (arrived : Bool) : List Char → List Bool → List Bool
  | c :: rest, m :: marks => arrived :: past s (m && s.contains c.toNat) rest marks
  | _, _ => [arrived]

/-- Applies a map of positions a number of times, stopping when none is left. -/
def iterate (f : List Bool → List Bool) : Nat → List Bool → List Bool
  | 0, marks => marks
  | k + 1, marks => if marks.any id then iterate f k (f marks) else marks

/-- The positions reached by applying a map up to a number of times: `found` so far, `edge` the
newest. Stops when nothing new is found. -/
def spread (f : List Bool → List Bool) : Nat → List Bool → List Bool → List Bool
  | 0, found, _ => found
  | k + 1, found, edge =>
    let next := List.zipWith (fun new old => new && !old) (f edge) found
    if next.any id then spread f k (union found next) next else found

def ends (text : List Char) : Pattern → List Bool → List Bool
  | .empty, marks => marks
  | .set s, marks => past s false text marks
  | .anchor a, marks => atAnchor a none text marks
  | .seq a b, marks => ends text b (ends text a marks)
  | .alt a b, marks => union (ends text a marks) (ends text b marks)
  | .rep p least most, marks =>
    let begun := iterate (ends text p) least marks
    match most with
    | none => spread (ends text p) (text.length + 1) begun begun
    | some most => spread (ends text p) (most - least) begun begun

def isFound (p : Pattern) (text : List Char) : Bool :=
  (ends text p (List.replicate (text.length + 1) true)).any id

/-- About how many bytes the pattern takes as a table of states: a state per ASCII character or
range, more for ranges beyond, everything once per repetition. -/
def size : Pattern → Nat
  | .empty => 0
  | .set s => if s.weight ≤ 2 then 32 else 24 + 56 * s.weight
  | .anchor _ => 32
  | .seq a b => a.size + b.size
  | .alt a b => a.size + b.size + 32
  | .rep p least most => (p.size + 32) * (max least (most.getD 0) + 1)

end Pattern

end Dialogue
