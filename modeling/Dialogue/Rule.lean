import Dialogue.Text.Blank
import Dialogue.Text.Category
import Dialogue.Text.Lowercase
import Dialogue.Value.Numeral
import Dialogue.Value.Basic

namespace Dialogue

inductive RuleKind where
  | text | number | email | phone | name | pattern | any
deriving DecidableEq

/-- How the texts of patterns are read: none for a text that is no pattern, else where the pattern
is found. The regular expressions are those of a library, and only this is used of them. -/
class PatternReader where
  read? : String → Option (String → Bool)

/-- A rule for answers. Bounds on numbers may be infinite, or no number and then no bound. -/
structure Rule where
  required : Bool := true
  kind : RuleKind := .text
  minLength : Option Nat := none
  maxLength : Option Nat := none
  min : Option Extended := none
  max : Option Extended := none
  pattern : Option String := none
deriving DecidableEq

inductive Reason where
  | required | tooShort | tooLong | invalidFormat | outOfRange | invalidChoice
deriving DecidableEq

/-- One of the answers a step offers; `value` is what is kept instead of the id. -/
structure Choice where
  id : String
  labelKey : String
  value : Option Value := none
deriving DecidableEq

namespace RuleKind

def word : RuleKind → String
  | .text => "text"
  | .number => "number"
  | .email => "email"
  | .phone => "phone"
  | .name => "name"
  | .pattern => "pattern"
  | .any => "any"

/-- The kind of a word; an unknown one accepts anything. -/
def ofWord (w : String) : RuleKind :=
  ([.text, .number, .email, .phone, .name, .pattern].find? (·.word = w)).getD .any

end RuleKind

namespace Reason

def code : Reason → String
  | .required => "required"
  | .tooShort => "too_short"
  | .tooLong => "too_long"
  | .invalidFormat => "invalid_format"
  | .outOfRange => "out_of_range"
  | .invalidChoice => "invalid_choice"

def ofCode? (w : String) : Option Reason :=
  [.required, .tooShort, .tooLong, .invalidFormat, .outOfRange, .invalidChoice].find? (·.code = w)

end Reason

namespace Choice

def kept (c : Choice) : Value := c.value.getD (.text c.id)

end Choice

namespace Rule

/-- Whether a domain has a dot with characters on both sides of it. -/
def hasInnerDot (domain : List Char) : Bool := (domain.drop 1).dropLast.contains '.'

/-- An address: one `@` with text on both sides, no blanks, and a dot inside the part after it. -/
def isEmail (cs : List Char) : Bool :=
  match cs.span (· ≠ '@') with
  | (user, _ :: domain) =>
    !user.isEmpty && !domain.contains '@' && !cs.any Text.isBlank && hasInnerDot domain
  | _ => false

/-- A phone number: 8 to 15 digits after an optional plus. -/
def isPhone (cs : List Char) : Bool :=
  let digits := match cs with
    | '+' :: rest => rest
    | _ => cs
  digits.all Char.isDigit && 8 ≤ digits.length && digits.length ≤ 15

def isLetter (c : Char) : Bool := Text.Category.letter.contains c.toNat

def isNameChar (c : Char) : Bool :=
  isLetter c || Text.Category.mark.contains c.toNat || Text.isBlank c ||
    c == '\'' || c == '-' || c == '.'

/-- A name: a letter, then letters, marks, blanks and the signs that occur in names. -/
def isName : List Char → Bool
  | [] => false
  | c :: rest => isLetter c && rest.all isNameChar

/-- The text with every run of blanks made one space; `within` tells that a run has begun. -/
def collapse (within : Bool) : List Char → List Char
  | [] => []
  | c :: rest =>
    if Text.isBlank c then if within then collapse true rest else ' ' :: collapse true rest
    else c :: collapse false rest

def isPhoneSign (c : Char) : Bool := c == ' ' || c == '.' || c == '-' || c == '(' || c == ')'

def coerceText (kind : RuleKind) (s : String) : Except Reason String :=
  match kind with
  | .email =>
    let email := Text.lowercase s
    if isEmail email.toList then .ok email else .error .invalidFormat
  | .phone =>
    let phone := s.toList.filter (!isPhoneSign ·)
    if isPhone phone then .ok (String.ofList phone) else .error .invalidFormat
  | .name =>
    let name := collapse false s.toList
    if isName name then .ok (String.ofList name) else .error .invalidFormat
  | .text | .pattern | .any | .number => .ok s

/-- The number an answer writes: blanks are ignored and a comma may stand for the point. -/
def coerceNumber? (s : String) : Option Double :=
  Numeral.finite? ((s.toList.filter (!Text.isBlank ·)).map fun c => if c = ',' then '.' else c)

/-- How a number is kept: as an integer when it has no fraction and its magnitude is below
2 ^ 63. -/
def numberValue (d : Double) : Value :=
  if d.isIntegral && (d.truncate.natAbs < Nat.pow 2 63) then .number (.integer d.truncate)
  else .number (.double d)

def checkLength (rule : Rule) (s : String) : Except Reason Unit :=
  let n := s.toList.length
  if rule.minLength.any (n < ·) then .error .tooShort
  else if rule.maxLength.any (· < n) then .error .tooLong
  else .ok ()

/-- Checks the pattern; nothing matches a pattern that cannot be read. -/
def checkPattern [PatternReader] (rule : Rule) (s : String) : Except Reason Unit :=
  match rule.pattern with
  | none => .ok ()
  | some p =>
    match PatternReader.read? p with
    | none => .error .invalidFormat
    | some found => if found s then .ok () else .error .invalidFormat

def outside (rule : Rule) (d : Double) : Bool :=
  rule.min.any (fun low => (Extended.finite d).lt low) ||
    rule.max.any (fun high => high.lt (.finite d))

/-- Checks a trimmed answer that is not empty against a rule. -/
def accept [PatternReader] (rule : Rule) (trimmed : String) : Except Reason Value :=
  match rule.kind with
  | .any => .ok (.text trimmed)
  | .number =>
    match coerceNumber? trimmed with
    | none => .error .invalidFormat
    | some d =>
      if rule.outside d then .error .outOfRange
      else do
        rule.checkPattern trimmed
        .ok (numberValue d)
  | kind => do
    let s ← coerceText kind trimmed
    rule.checkLength s
    rule.checkPattern s
    .ok (.text s)

/-- Checks an answer. Without a rule everything is accepted; an empty answer is refused if one is
required and null otherwise. -/
def validate [PatternReader] (rule : Option Rule) (input : String) : Except Reason Value :=
  let trimmed := Text.trim input
  match rule with
  | none => .ok (.text trimmed)
  | some rule =>
    if trimmed.isEmpty then if rule.required then .error .required else .ok .null
    else rule.accept trimmed

end Rule

namespace Choice

/-- The choice an answer takes: the one with that id, else the one in that place, counted from 1. -/
def select? (choices : List Choice) (answer : String) : Option Choice :=
  (choices.find? (·.id = answer)).or <|
    (Numeral.natural64? answer.toList).bind fun n => if n = 0 then none else choices[n - 1]?

/-- Checks an answer against the choices offered. -/
def validate (choices : List Choice) (input : String) : Except Reason Value :=
  match select? choices (Text.trim input) with
  | some c => .ok c.kept
  | none => .error .invalidChoice

end Choice

end Dialogue
