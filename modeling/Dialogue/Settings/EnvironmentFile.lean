import Dialogue.Text.Blank
import Dialogue.Text.Property
import Dialogue.Text.Category
import Dialogue.Text.Split

namespace Dialogue

abbrev Environment := List (String × String)

namespace EnvironmentFile

inductive LineState where
  | plain | blank | escape | single | singleEscape | double | doubleEscape | comment
deriving DecidableEq

def LineState.next (s : LineState) (c : Char) : LineState :=
  match s with
  | .blank | .plain =>
    if s = .blank ∧ c = '#' then .comment
    else if c = '\\' then .escape
    else if c = '"' then .double
    else if c = '\x27' then .single
    else if s = .plain ∧ Text.isBlank c ∧ c ≠ '\n' ∧ c ≠ '\r' then .blank
    else .plain
  | .escape => .plain
  | .double => if c = '\\' then .doubleEscape else if c = '"' then .plain else .double
  | .doubleEscape => .double
  | .single => if c = '\\' then .singleEscape else if c = '\x27' then .plain else .single
  | .singleEscape => .single
  | .comment => .comment

def scan (s : LineState) : List Char → List Char × LineState
  | [] => ([], s)
  | c :: rest =>
    match s.next c with
    | .comment => ([], .comment)
    | t =>
      let (taken, last) := scan t rest
      (c :: taken, last)

/-- Joins lines whose values go on in the next line. Without a result at the end the last value does
not end; a line that starts as a comment ends what was begun. -/
def joinLines (begun : List Char) (s : LineState) : List (List Char) → List (Option (List Char))
  | [] => if s = .plain then [] else [none]
  | line :: rest =>
    if (Text.trimLeft (begun ++ line)).head? = some '#' then some [] :: joinLines [] .plain rest
    else match scan s line with
      | (taken, .comment) => some (begun ++ taken) :: joinLines [] .plain rest
      | (_, .plain) => some (Text.withoutEnd (begun ++ line)) :: joinLines [] .plain rest
      | (_, t) => joinLines (begun ++ line) t rest

/-- How the name of a variable to be put in is written: after a dollar sign, or in braces. -/
inductive Reference where
  | bare | braced
deriving DecidableEq

structure ValueState where
  output : List Char := []
  single : Bool := false
  double : Bool := false
  escaped : Bool := false
  ended : Bool := false
  reference : Option Reference := none
  name : List Char := []

def valueOf (outer known : Environment) (name : String) : List Char :=
  ((outer.lookup name).getD ((known.lookup name).getD "")).toList

def ValueState.substitute (v : ValueState) (outer known : Environment) : ValueState :=
  { v with
    output := v.output ++ valueOf outer known (String.ofList v.name)
    name := []
    reference := none }

def isNameChar (c : Char) : Bool :=
  Text.Property.alphabetic.contains c.toNat || Text.Category.numeric.contains c.toNat

/-- Takes the next character of a value. Without a result the value is wrong; `done` means that a
comment follows. -/
def ValueState.take (v : ValueState) (outer known : Environment) (c : Char) :
    Option (ValueState × Bool) :=
  if v.ended then
    if c = ' ' ∨ c = '\t' then some (v, false) else if c = '#' then some (v, true) else none
  else if v.escaped then
    let v' := { v with escaped := false }
    if c = '\\' ∨ c = '\x27' ∨ c = '"' ∨ c = '$' ∨ c = ' ' then
      some ({ v' with output := v.output ++ [c] }, false)
    else if c = 'n' then some ({ v' with output := v.output ++ ['\n'] }, false)
    else none
  else if v.single then
    some (if c = '\x27' then { v with single := false }
      else { v with output := v.output ++ [c] }, false)
  else match v.reference with
  | some r =>
    if isNameChar c then some ({ v with name := v.name ++ [c] }, false)
    else match r with
    | .bare =>
      if c = '\x7b' ∧ v.name.isEmpty then some ({ v with reference := some .braced }, false)
      else
        let w := v.substitute outer known
        if c = '$' then some ({ w with reference := some .bare }, false)
        else some ({ w with output := w.output ++ [c] }, false)
    | .braced =>
      if c = '\x7d' then some (v.substitute outer known, false)
      else some ({ v with name := v.name ++ [c] }, false)
  | none =>
    if c = '$' then some ({ v with reference := some .bare }, false)
    else if v.double then
      if c = '"' then some ({ v with double := false }, false)
      else if c = '\\' then some ({ v with escaped := true }, false)
      else some ({ v with output := v.output ++ [c] }, false)
    else if c = '\x27' then some ({ v with single := true }, false)
    else if c = '"' then some ({ v with double := true }, false)
    else if c = '\\' then some ({ v with escaped := true }, false)
    else if c = ' ' ∨ c = '\t' then some ({ v with ended := true }, false)
    else some ({ v with output := v.output ++ [c] }, false)

def value? (outer known : Environment) (v : ValueState) : List Char → Option String
  | [] =>
    if v.reference = some .braced ∨ v.single ∨ v.double then none
    else some (String.ofList (v.substitute outer known).output)
  | c :: rest =>
    match v.take outer known c with
    | none => none
    | some (v, true) => value? outer known v []
    | some (v, false) => value? outer known v rest

def key? (cs : List Char) : Option (String × List Char) :=
  match cs with
  | c :: _ =>
    if c.isAlpha ∨ c = '_' then
      let key := cs.takeWhile fun c => c.isAlphanum || c = '_' || c = '.'
      some (String.ofList key, Text.trimLeft (cs.drop key.length))
    else none
  | [] => none

def afterEquals? : List Char → Option (List Char)
  | '=' :: rest => some rest
  | _ => none

/-- The key of a line and the rest after the equals sign; a key may be exported. -/
def assignment? (cs : List Char) : Option (String × List Char) := do
  let (key, rest) ← key? cs
  match afterEquals? rest with
  | some rest => some (key, rest)
  | none =>
    if key = "export" then
      let (key, rest) ← key? rest
      some (key, ← afterEquals? rest)
    else none

/-- Reads a line: nothing, or a variable and its value. Without a result the line is wrong. -/
def line? (outer known : Environment) (line : List Char) : Option (Option (String × String)) :=
  let body := Text.trimLeft (Text.trimRight line)
  if body.isEmpty ∨ body.head? = some '#' then some none
  else do
    let (key, rest) ← assignment? body
    let rest := Text.trimLeft rest
    if rest.isEmpty ∨ rest.head? = some '#' then some (some (key, ""))
    else
      let value ← value? outer known {} rest
      some (some (key, value))

/-- Reads lines in turn up to the first that is wrong. A variable that is set already stays. -/
def readLines (known read : Environment) : Environment → List (Option (List Char)) → Environment
  | env, [] => env ++ read.reverse
  | env, none :: _ => env ++ read.reverse
  | env, some line :: rest =>
    match line? (env ++ read.reverse) known line with
    | none => env ++ read.reverse
    | some none => readLines known read env rest
    | some (some (key, value)) =>
      let isSet := ((env ++ read.reverse).lookup key).isSome
      readLines ((key, value) :: known) (if isSet then read else (key, value) :: read) env rest

def extend (env : Environment) (text : String) : Environment :=
  let cs := text.toList
  let cs := if cs.head? = some '\uFEFF' then cs.drop 1 else cs
  readLines [] [] env (joinLines [] .plain (Text.linesWithEnds cs))

end EnvironmentFile

end Dialogue
