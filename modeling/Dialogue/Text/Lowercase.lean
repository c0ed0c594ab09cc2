import Dialogue.Text.Casing

namespace Dialogue.Text

/-- The lowercase form of one character. Only the dotted capital I has a form of two characters. -/
def lowerChar (c : Char) : List Char :=
  let n := c.toNat
  if n < 0x80 then [c.toLower]
  else if n = 0x130 then ['i', Char.ofNat 0x307]
  else match Casing.lowerRuns.find? fun r => r.1 ≤ n && n ≤ r.2.1 && (n - r.1) % r.2.2.1 == 0 with
    | some r => [Char.ofNat (n + r.2.2.2).toNat]
    | none => [c]

def startsCased : List Char → Bool
  | [] => false
  | c :: rest =>
    if Casing.ignorable.contains c.toNat then startsCased rest else Casing.cased.contains c.toNat

/-- Lowercases a text; `before` holds what was read so far, the last character first. -/
def lowerFrom (before : List Char) : List Char → List Char
  | [] => []
  | c :: rest =>
    if c = 'Σ' then
      (if startsCased before && !startsCased rest then 'ς' else 'σ') :: lowerFrom (c :: before) rest
    else lowerChar c ++ lowerFrom (c :: before) rest

def lowercase (s : String) : String := String.ofList (lowerFrom [] s.toList)

end Dialogue.Text
