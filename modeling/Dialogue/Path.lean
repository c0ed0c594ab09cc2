import Dialogue.Text.Blank

namespace Dialogue.Path

/-- The characters of a name: ASCII letters and digits, `_` and `-`. -/
def isNameChar (c : Char) : Bool :=
  c.isAlphanum || c = '_' || c = '-'

def takeName (cs : List Char) : List Char × List Char :=
  (cs.takeWhile isNameChar, cs.dropWhile isNameChar)

/-- More names, each after a dot; `fuel` bounds their number. A dot without a name after it is not
taken. -/
def takeMore : Nat → List Char → List Char × List Char
  | 0, cs => ([], cs)
  | fuel + 1, cs =>
    match cs with
    | '.' :: rest =>
      match takeName rest with
      | ([], _) => ([], cs)
      | (name, rest) =>
        let (more, rest) := takeMore fuel rest
        ('.' :: name ++ more, rest)
    | _ => ([], cs)

/-- The longest dotted path at the head of a text, and the rest; none without a first name. -/
def take? (cs : List Char) : Option (List Char × List Char) :=
  match takeName cs with
  | ([], _) => none
  | (name, rest) =>
    let (more, rest) := takeMore rest.length rest
    some (name ++ more, rest)

end Dialogue.Path
