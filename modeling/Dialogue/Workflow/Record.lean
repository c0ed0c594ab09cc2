import Dialogue.Workflow.Basic
import Dialogue.Document.Fields

namespace Dialogue

def maxNatural64 : Nat := Nat.pow 2 64 - 1

namespace RuleKind

/-- Reads a kind: a word, or a mapping of the word to nothing. -/
def ofDocument? : Document → Option RuleKind
  | .mapping [(k, d)] => if d.isAbsent then k.name?.map ofWord else none
  | .text s => some (ofWord s)
  | .plain w => some (ofWord w)
  | .tagged d => ofDocument? d
  | _ => none

end RuleKind

namespace Value

/-- A binary number as a value; infinities and what is no number are written as null. -/
def ofExtended : Extended → Value
  | .finite d => .number (.double d)
  | _ => .null

def ofNat (n : Nat) : Value := .number (.integer n)

def field? {α : Type} (name : String) (write : α → Value) : Option α → List (String × Value)
  | some a => [(name, write a)]
  | none => []

end Value

namespace Rule

def ofDocument? (d : Document) : Option Rule := do
  let fs ← Fields.of? ["required", "kind", "minLength", "maxLength", "min", "max", "pattern"] d
  some {
    required := ← fs.withDefault "required" true Document.bool?
    kind := ← fs.withDefault "kind" .text RuleKind.ofDocument?
    minLength := ← fs.optional "minLength" (Document.natural? maxNatural64)
    maxLength := ← fs.optional "maxLength" (Document.natural? maxNatural64)
    min := ← fs.optional "min" Document.double?
    max := ← fs.optional "max" Document.double?
    pattern := ← fs.optional "pattern" Document.text? }

def toValue (r : Rule) : Value :=
  .object (Record.ofList (
    [("required", .bool r.required), ("kind", .text r.kind.word)] ++
    Value.field? "minLength" Value.ofNat r.minLength ++
    Value.field? "maxLength" Value.ofNat r.maxLength ++
    Value.field? "min" Value.ofExtended r.min ++
    Value.field? "max" Value.ofExtended r.max ++
    Value.field? "pattern" Value.text r.pattern))

end Rule

namespace Reason

/-- Reads a reason: its code, or a mapping of the code to nothing. -/
def ofDocument? : Document → Option Reason
  | .mapping [(k, d)] => if d.isAbsent then k.name?.bind ofCode? else none
  | .text s => ofCode? s
  | .plain w => ofCode? w
  | .tagged d => ofDocument? d
  | _ => none

end Reason

namespace Progress

def ofDocument? (d : Document) : Option Progress := do
  let fs ← Fields.of? ["current", "total"] d
  some {
    current := ← fs.required "current" (Document.natural? maxNatural64)
    total := ← fs.required "total" (Document.natural? maxNatural64) }

end Progress

namespace Choice

def ofDocument? (d : Document) : Option Choice := do
  let fs ← Fields.of? ["id", "labelKey", "value"] d
  some {
    id := ← fs.required "id" Document.text?
    labelKey := ← fs.required "labelKey" Document.text?
    value := ← fs.optionalDefault "value" Document.toValue? }

def toValue (c : Choice) : Value :=
  .object (Record.ofList (
    [("id", .text c.id), ("labelKey", .text c.labelKey)] ++
      Value.field? "value" (fun v => v) c.value))

end Choice

namespace Branch

/-- Reads a branch. Inside a transition only what is not written like anything else is a text. -/
def ofDocument? (d : Document) : Option Branch := do
  let fs ← Fields.of? ["when", "goto"] d
  some {
    condition := ← fs.optionalDefault "when" Document.strictText?
    target := ← fs.required "goto" Document.strictText? }

def toValue (b : Branch) : Value :=
  .object (Record.ofList (
    Value.field? "when" Value.text b.condition ++ [("goto", .text b.target)]))

end Branch

namespace Transition

/-- Reads a transition: a target or a list of branches. -/
def ofDocument? (d : Document) : Option Transition :=
  match d.strictText? with
  | some target => some (.fixed target)
  | none =>
    match d with
    | .list items => (items.mapM Branch.ofDocument?).map .branches
    | _ => none

def toValue : Transition → Value
  | .fixed target => .text target
  | .branches bs => .list (bs.map Branch.toValue)

end Transition

namespace StepKind

/-- Reads a kind: a word, or a mapping of the word to nothing. -/
def ofDocument? : Document → Option StepKind
  | .mapping [(k, d)] => if d.isAbsent then k.name?.bind ofWord? else none
  | .text s => ofWord? s
  | .plain w => ofWord? w
  | .tagged d => ofDocument? d
  | _ => none

end StepKind

namespace Step

def putParam (name : String) (value : Template) :
    List (String × Template) → List (String × Template)
  | [] => [(name, value)]
  | (k, v) :: rest =>
    if name = k then (k, value) :: rest
    else if name < k then (name, value) :: (k, v) :: rest
    else (k, v) :: putParam name value rest

def params? (d : Document) : Option (List (String × Template)) := do
  let entries ← d.entries?
  let pairs ← entries.mapM fun (k, d) => do
    let name ← k.text?
    let text ← d.text?
    some (name, Template.parse text)
  some (pairs.foldl (fun ps p => putParam p.1 p.2 ps) [])

def fieldNames : List String :=
  ["id", "kind", "promptKey", "validation", "choices", "action", "params", "next", "onError",
    "allowBack", "allowSystemCommands", "pause"]

def ofDocument? (d : Document) : Option Step := do
  let fs ← Fields.of? fieldNames d
  some {
    id := ← fs.required "id" Document.text?
    kind := ← fs.optionalDefault "kind" StepKind.ofDocument?
    promptKey := ← fs.withDefault "promptKey" "" Document.text?
    validation := ← fs.optionalDefault "validation" Rule.ofDocument?
    choices := ← fs.withDefault "choices" [] (Document.listOf? Choice.ofDocument?)
    action := ← fs.optionalDefault "action" Document.text?
    params := ← fs.withDefault "params" [] params?
    next := ← fs.optionalDefault "next" Transition.ofDocument?
    onError := ← fs.optionalDefault "onError" Transition.ofDocument?
    allowBack := ← fs.withDefault "allowBack" true Document.bool?
    allowSystemCommands := ← fs.withDefault "allowSystemCommands" true Document.bool?
    pause := ← fs.withDefault "pause" false Document.bool? }

/-- A step as a value; empty lists and absent parts are left out. -/
def toValue (s : Step) : Value :=
  .object (Record.ofList (
    [("id", .text s.id)] ++
    Value.field? "kind" (fun k => .text k.word) s.kind ++
    [("promptKey", .text s.promptKey)] ++
    Value.field? "validation" Rule.toValue s.validation ++
    (if s.choices.isEmpty then [] else [("choices", .list (s.choices.map Choice.toValue))]) ++
    Value.field? "action" Value.text s.action ++
    (if s.params.isEmpty then []
      else [("params", .object (s.params.map fun p => (p.1, .text p.2.toText)))]) ++
    Value.field? "next" Transition.toValue s.next ++
    Value.field? "onError" Transition.toValue s.onError ++
    [("allowBack", .bool s.allowBack), ("allowSystemCommands", .bool s.allowSystemCommands),
      ("pause", .bool s.pause)]))

end Step

namespace Workflow

def ofDocument? (d : Document) : Option Workflow := do
  let fs ← Fields.of?
    ["id", "startStepId", "steps", "showProgress", "onComplete", "completionPromptKey"] d
  some {
    id := ← fs.required "id" Document.text?
    startStepId := ← fs.required "startStepId" Document.text?
    steps := ← fs.required "steps" (Document.listOf? Step.ofDocument?)
    showProgress := ← fs.withDefault "showProgress" false Document.bool?
    onComplete := ← fs.optional "onComplete" Document.text?
    completionPromptKey := ← fs.optional "completionPromptKey" Document.text? }

def toValue (w : Workflow) : Value :=
  .object (Record.ofList (
    [("id", .text w.id), ("startStepId", .text w.startStepId),
      ("steps", .list (w.steps.map Step.toValue)), ("showProgress", .bool w.showProgress)] ++
    Value.field? "onComplete" Value.text w.onComplete ++
    Value.field? "completionPromptKey" Value.text w.completionPromptKey))

end Workflow

end Dialogue
