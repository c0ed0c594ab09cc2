import Dialogue.Text.Category
import Dialogue.Text.Property
import Dialogue.Text.Script
import Dialogue.Text.Folding

namespace Dialogue

open Text (Ranges)

/-- A set of characters. Folded sets also hold the characters that differ from a member in case. -/
inductive CharSet where
  | ranges (members : Ranges)
  | folded (members : Ranges)
  | asciiFolded (members : Ranges)
  | union (a b : CharSet)
  | inter (a b : CharSet)
  | diff (a b : CharSet)
  | symmDiff (a b : CharSet)
  | compl (a : CharSet)

namespace CharSet

def swapAscii (n : Nat) : Nat :=
  if 0x41 ≤ n ∧ n ≤ 0x5A then n + 0x20 else if 0x61 ≤ n ∧ n ≤ 0x7A then n - 0x20 else n

def contains : CharSet → Nat → Bool
  | .ranges r, n => r.contains n
  | .folded r, n => r.contains n || (Text.Folding.others n).any r.contains
  | .asciiFolded r, n => r.contains n || r.contains (swapAscii n)
  | .union a b, n => a.contains n || b.contains n
  | .inter a b, n => a.contains n && b.contains n
  | .diff a b, n => a.contains n && !b.contains n
  | .symmDiff a b, n => a.contains n != b.contains n
  | .compl a, n => !a.contains n

def none : CharSet := .ranges []

def single (c : Char) : CharSet := .ranges [(c.toNat, c.toNat)]

def weight : CharSet → Nat
  | .ranges r | .folded r | .asciiFolded r => r.length
  | .union a b | .inter a b | .diff a b | .symmDiff a b => a.weight + b.weight
  | .compl a => a.weight + 1

def digit : Ranges := Text.Category.nd

def blank : Ranges := Text.Property.whiteSpace

def word : Ranges :=
  Text.Property.alphabetic ++ Text.Category.mark ++ Text.Category.nd ++ Text.Category.pc ++
    Text.Property.joinControl

def asciiDigit : Ranges := [(0x30, 0x39)]

def asciiBlank : Ranges := [(0x9, 0xD), (0x20, 0x20)]

def asciiWord : Ranges := [(0x30, 0x39), (0x41, 0x5A), (0x5F, 0x5F), (0x61, 0x7A)]

def asciiClass? (name : String) : Option Ranges :=
  match name with
  | "alnum" => some [(0x30, 0x39), (0x41, 0x5A), (0x61, 0x7A)]
  | "alpha" => some [(0x41, 0x5A), (0x61, 0x7A)]
  | "ascii" => some [(0, 0x7F)]
  | "blank" => some [(0x9, 0x9), (0x20, 0x20)]
  | "cntrl" => some [(0, 0x1F), (0x7F, 0x7F)]
  | "digit" => some asciiDigit
  | "graph" => some [(0x21, 0x7E)]
  | "lower" => some [(0x61, 0x7A)]
  | "print" => some [(0x20, 0x7E)]
  | "punct" => some [(0x21, 0x2F), (0x3A, 0x40), (0x5B, 0x60), (0x7B, 0x7E)]
  | "space" => some asciiBlank
  | "upper" => some [(0x41, 0x5A)]
  | "word" => some asciiWord
  | "xdigit" => some [(0x30, 0x39), (0x41, 0x46), (0x61, 0x66)]
  | _ => Option.none

def plainName (name : List Char) : String :=
  let cs := (name.filter fun c => c.toNat < 0x80 && c ≠ ' ' && c ≠ '_' && c ≠ '-').map Char.toLower
  let rest := match cs with
    | 'i' :: 's' :: rest => if rest = ['c'] then cs else rest
    | _ => cs
  String.ofList rest

def category? (name : String) : Option CharSet :=
  let table : List (List String × Ranges) := [
    (["lu", "uppercaseletter"], Text.Category.lu), (["ll", "lowercaseletter"], Text.Category.ll),
    (["lt", "titlecaseletter"], Text.Category.lt), (["lm", "modifierletter"], Text.Category.lm),
    (["lo", "otherletter"], Text.Category.lo), (["lc", "casedletter"], Text.Category.casedLetter),
    (["l", "letter"], Text.Category.letter), (["mn", "nonspacingmark"], Text.Category.mn),
    (["mc", "spacingmark"], Text.Category.mc), (["me", "enclosingmark"], Text.Category.me),
    (["m", "mark", "combiningmark"], Text.Category.mark),
    (["nd", "decimalnumber", "digit"], Text.Category.nd),
    (["nl", "letternumber"], Text.Category.nl),
    (["no", "othernumber"], Text.Category.no), (["n", "number"], Text.Category.numeric),
    (["pc", "connectorpunctuation"], Text.Category.pc),
    (["pd", "dashpunctuation"], Text.Category.pd),
    (["ps", "openpunctuation"], Text.Category.ps), (["pe", "closepunctuation"], Text.Category.pe),
    (["pi", "initialpunctuation"], Text.Category.pi),
    (["pf", "finalpunctuation"], Text.Category.pf), (["po", "otherpunctuation"], Text.Category.po),
    (["p", "punctuation", "punct"], Text.Category.punctuation),
    (["sm", "mathsymbol"], Text.Category.sm), (["sc", "currencysymbol"], Text.Category.sc),
    (["sk", "modifiersymbol"], Text.Category.sk), (["so", "othersymbol"], Text.Category.so),
    (["s", "symbol"], Text.Category.symbol), (["zs", "spaceseparator"], Text.Category.zs),
    (["zl", "lineseparator"], Text.Category.zl), (["zp", "paragraphseparator"], Text.Category.zp),
    (["z", "separator"], Text.Category.separator), (["cc", "control", "cntrl"], Text.Category.cc),
    (["cf", "format"], Text.Category.cf), (["co", "privateuse"], Text.Category.co),
    (["any"], [(0, 0x10FFFF)]), (["ascii"], [(0, 0x7F)]), (["assigned"], Text.Category.assigned)]
  match name with
  | "cn" | "unassigned" => some (.compl (.ranges Text.Category.assigned))
  | "c" | "other" =>
    some (.union (.compl (.ranges Text.Category.assigned))
      (.ranges (Text.Category.cc ++ Text.Category.cf ++ Text.Category.co)))
  | "cs" | "surrogate" => some .none
  | _ => (table.find? (·.1.contains name)).map fun e => .ranges e.2

def named? (name : List Char) : Option CharSet :=
  let plain := plainName name
  let property :=
    if plain = "cf" ∨ plain = "sc" ∨ plain = "lc" then Option.none
    else (Text.Property.find? plain).map CharSet.ranges
  (property.or (category? plain)).or ((Text.Script.find? plain).map .ranges)

def valued? (property value : List Char) : Option CharSet :=
  let value := plainName value
  match plainName property with
  | "gc" | "generalcategory" => category? value
  | "sc" | "script" => (Text.Script.find? value).map .ranges
  | "scx" | "scriptextensions" => (Text.Script.findExtended? value).map .ranges
  | _ => Option.none

def fold (unicode : Bool) : CharSet → CharSet
  | .ranges r => if unicode then .folded r else .asciiFolded r
  | .folded r => .folded r
  | .asciiFolded r => .asciiFolded r
  | .union a b => .union (a.fold unicode) (b.fold unicode)
  | .inter a b => .inter (a.fold unicode) (b.fold unicode)
  | .diff a b => .diff (a.fold unicode) (b.fold unicode)
  | .symmDiff a b => .symmDiff (a.fold unicode) (b.fold unicode)
  | .compl a => .compl (a.fold unicode)

end CharSet

end Dialogue
