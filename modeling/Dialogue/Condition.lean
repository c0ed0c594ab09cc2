import Dialogue.Path
import Dialogue.Value.Path

namespace Dialogue

inductive Operator where
  | eq | ne | gt | lt | ge | le | present | absent
deriving DecidableEq

/-- A condition; one about presence has a null literal. -/
structure Condition where
  path : String
  operator : Operator
  literal : Value
deriving DecidableEq

inductive ConditionError where
  | shape (text : String)
  | literal (text part : String)
deriving DecidableEq

namespace ConditionError

def message : ConditionError → String
  | .shape text => "unrecognised condition `" ++ text ++ "`"
  | .literal text part => "invalid literal `" ++ part ++ "` in condition `" ++ text ++ "`"

end ConditionError

namespace Operator

def token : Operator → String
  | .eq => "=="
  | .ne => "!="
  | .gt => ">"
  | .lt => "<"
  | .ge => ">="
  | .le => "<="
  | .present => "exists"
  | .absent => "not_exists"

end Operator

namespace Condition

/-- Reads a condition on presence: a path, blanks, and one of the two words. -/
def presence? (cs : List Char) : Option Condition :=
  match Path.take? (Text.trimLeft cs) with
  | some (path, rest) =>
    let word := Text.trimChars rest
    if (Text.trimLeft rest).length = rest.length then none
    else if word = "exists".toList then some ⟨String.ofList path, .present, .null⟩
    else if word = "not_exists".toList then some ⟨String.ofList path, .absent, .null⟩
    else none
  | none => none

/-- The comparisons a text may start with, a longer one before its own beginning, each with the
rest after it. -/
def operators : List Char → List (Operator × List Char)
  | '=' :: '=' :: rest => [(.eq, rest)]
  | '!' :: '=' :: rest => [(.ne, rest)]
  | '>' :: '=' :: rest => [(.ge, rest), (.gt, '=' :: rest)]
  | '<' :: '=' :: rest => [(.le, rest), (.lt, '=' :: rest)]
  | '>' :: rest => [(.gt, rest)]
  | '<' :: rest => [(.lt, rest)]
  | _ => []

/-- The literal in what follows a comparison: what is left without the blanks around it, if it is
on one line; of blanks alone, the last one that does not end a line. -/
def literalPart? (cs : List Char) : Option (List Char) :=
  match Text.trimChars cs with
  | [] => (cs.reverse.find? (· ≠ '\n')).map ([·])
  | body => if '\n' ∈ body then none else some body

/-- Whether a text of at least two characters starts and ends with a character. -/
def isQuoted (q : Char) (cs : List Char) : Bool :=
  2 ≤ cs.length && cs.head? == some q && cs.getLast? == some q

/-- The value of a literal: a quoted text, a word, or a finite number. -/
def literal? (raw : List Char) : Option Value :=
  let cs := Text.trimChars raw
  if isQuoted '"' cs || isQuoted '\'' cs then
    some (.text (String.ofList (cs.drop 1).dropLast))
  else if cs = "true".toList then some (.bool true)
  else if cs = "false".toList then some (.bool false)
  else if cs = "null".toList then some .null
  else match Numeral.integer64? cs with
    | some n => some (.number (.integer n))
    | none => (Numeral.finite? cs).map fun d => .number (.double d)

def comparison? (cs : List Char) : Option (List Char × Operator × List Char) :=
  match Path.take? (Text.trimLeft cs) with
  | some (path, rest) =>
    (operators (Text.trimLeft rest)).findSome? fun (op, rest) =>
      (literalPart? rest).map fun lit => (path, op, lit)
  | none => none

def parse (text : String) : Except ConditionError Condition :=
  match presence? text.toList with
  | some c => .ok c
  | none =>
    match comparison? text.toList with
    | none => .error (.shape text)
    | some (path, op, lit) =>
      match literal? lit with
      | some v => .ok ⟨String.ofList path, op, v⟩
      | none => .error (.literal text (String.ofList lit))

def toText (c : Condition) : String :=
  match c.operator with
  | .present | .absent => c.path ++ " " ++ c.operator.token
  | _ => c.path ++ " " ++ c.operator.token ++ " " ++ c.literal.render

/-- Equality of values, numbers by magnitude. -/
def sameValue : Value → Value → Bool
  | .number a, .number b => a.toExtended.eq b.toExtended
  | a, b => decide (a = b)

/-- The number a value stands for; a text stands for the finite number it writes. -/
def magnitude? : Value → Option Extended
  | .number n => some n.toExtended
  | .text s => (Numeral.finite? (Text.trimChars s.toList)).map .finite
  | _ => none

/-- Compares the magnitudes of two values; false when one has none. -/
def ordered (test : Extended → Extended → Bool) (actual : Option Value) (literal : Value) : Bool :=
  match actual.bind magnitude?, magnitude? literal with
  | some a, some b => test a b
  | _, _ => false

/-- Whether a condition holds of the variables; a missing value counts as null. -/
def holds (c : Condition) (vars : Record) : Bool :=
  let actual := vars.lookup? c.path
  match c.operator with
  | .present => actual.any (!·.isNull)
  | .absent => actual.all (·.isNull)
  | .eq => sameValue (actual.getD .null) c.literal
  | .ne => !sameValue (actual.getD .null) c.literal
  | .gt => ordered (fun a b => b.lt a) actual c.literal
  | .lt => ordered Extended.lt actual c.literal
  | .ge => ordered (fun a b => b.le a) actual c.literal
  | .le => ordered Extended.le actual c.literal

end Condition

end Dialogue
