import Dialogue.Path
import Dialogue.Value.Path

namespace Dialogue

/-- The text of a template, or the path of one that is a single placeholder. -/
inductive Template where
  | literal (text : String)
  | reference (path : String)
deriving DecidableEq

namespace Template

/-- The path of the placeholder that starts a text, and the rest after it. -/
def placeholder? : List Char → Option (List Char × List Char)
  | '\x7b' :: '\x7b' :: rest =>
    match Path.take? (Text.trimLeft rest) with
    | some (path, rest) =>
      match Text.trimLeft rest with
      | '\x7d' :: '\x7d' :: rest => some (path, rest)
      | _ => none
    | none => none
  | _ => none

/-- Reads a template: a single placeholder with nothing but blanks around it is a reference. -/
def parse (raw : String) : Template :=
  match placeholder? (Text.trimLeft raw.toList) with
  | some (path, rest) =>
    if (Text.trimLeft rest).isEmpty then .reference (String.ofList path) else .literal raw
  | none => .literal raw

def toText : Template → String
  | .literal text => text
  | .reference path => "\x7b\x7b " ++ path ++ " \x7d\x7d"

/-- The text that a placeholder of this path stands for; nothing when the path leads nowhere. -/
def shown (vars : Record) (path : List Char) : List Char :=
  match vars.lookup? (String.ofList path) with
  | some v => v.display.toList
  | none => []

/-- Copies a text from left to right, putting values in the place of placeholders; `fuel` is the
length of the text. -/
def fill (vars : Record) : Nat → List Char → List Char
  | 0, cs => cs
  | _ + 1, [] => []
  | fuel + 1, c :: rest =>
    match placeholder? (c :: rest) with
    | some (path, rest) => shown vars path ++ fill vars fuel rest
    | none => c :: fill vars fuel rest

def renderText (text : String) (vars : Record) : String :=
  String.ofList (fill vars text.toList.length text.toList)

/-- What a template stands for: the value of a reference (null when it leads nowhere), the filled
text of a literal. -/
def resolve (vars : Record) : Template → Value
  | .literal text => .text (renderText text vars)
  | .reference path => (vars.lookup? path).getD .null

end Template

end Dialogue
