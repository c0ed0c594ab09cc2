import Dialogue.Context
import Dialogue.Document.Fields
import Dialogue.Value.Reader

namespace Dialogue.Context

def instant? (d : Document) : Option Instant :=
  match d with
  | .text s => Instant.ofText? s
  | _ => none

def ofDocument? (d : Document) : Option Context := do
  let fs ← Fields.of?
    ["workflowId", "currentStepId", "variables", "history", "startedAt", "retryCount", "version"] d
  some {
    workflowId := ← fs.optional "workflowId" Document.text?
    currentStepId := ← fs.optional "currentStepId" Document.text?
    vars := ← fs.withDefault "variables" [] Document.recordOf?
    history := ← fs.withDefault "history" [] (Document.listOf? Document.text?)
    startedAt := ← fs.optional "startedAt" instant?
    retryCount := ← fs.withDefault "retryCount" 0 (Document.natural? (Nat.pow 2 32 - 1))
    version := ← fs.withDefault "version" 0 (Document.natural? (Nat.pow 2 64 - 1)) }

def ofValue? (v : Value) : Option Context := ofDocument? (.ofValue v)

def optionalText : Option String → Value
  | some s => .text s
  | none => .null

def toValue (c : Context) : Value :=
  .object [
    ("currentStepId", optionalText c.currentStepId),
    ("history", .list (c.history.map .text)),
    ("retryCount", .number (.integer c.retryCount.toNat)),
    ("startedAt", optionalText (c.startedAt.map Instant.toText)),
    ("variables", .object c.vars),
    ("version", .number (.integer c.version)),
    ("workflowId", optionalText c.workflowId)]

def toText (c : Context) : String := c.toValue.render

def ofText? (s : String) : Option Context := (Value.ofText? s).bind ofValue?

end Dialogue.Context
