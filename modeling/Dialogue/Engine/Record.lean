import Dialogue.Engine
import Dialogue.Workflow.Record

namespace Dialogue

namespace Progress

def toValue (p : Progress) : Value :=
  .object [("current", .ofNat p.current), ("total", .ofNat p.total)]

end Progress

namespace SessionRef

def toValue (s : SessionRef) : Value :=
  .object (Value.field? "locale" Value.text s.locale ++ [("session_key", .text s.key)])

end SessionRef

namespace Request

def toValue (r : Request) (action : String) : Value :=
  .object [("action", .text action), ("params", .object r.params), ("rawInput", .text r.rawInput),
    ("session", r.session.toValue), ("stepId", .text r.stepId),
    ("variables", .object r.vars), ("workflowId", .text r.workflowId)]

end Request

namespace CallFailure

def toValue : CallFailure → Value
  | .timeout => .object [("code", .text "timeout"), ("kind", .text "timeout")]
  | .error m => .object [("code", .text m), ("kind", .text "error"), ("message", .text m)]

end CallFailure

namespace Prompt

def choiceValue (c : ShownChoice) : Value :=
  .object [("id", .text c.id), ("index", .ofNat c.index), ("labelKey", .text c.labelKey)]

def toValue (p : Prompt) : Value :=
  .object [("allowBack", .bool p.allowBack), ("choices", .list (p.choices.map choiceValue)),
    ("error", (p.error.map fun r => .text r.code).getD .null),
    ("expectsInput", .bool p.expectsInput),
    ("progress", (p.progress.map Progress.toValue).getD .null), ("promptKey", .text p.promptKey),
    ("stepId", .text p.stepId), ("variables", .object p.vars),
    ("workflowId", .text p.workflowId)]

end Prompt

namespace StepResult

def toValue (r : StepResult) : Value :=
  let kind := ("kind", Value.text r.word)
  match r with
  | .awaitingInput p ns =>
    .object [kind, ("notices", .list (ns.map Prompt.toValue)), ("prompt", p.toValue)]
  | .validationError reason p n =>
    .object [("attempt", .ofNat n.toNat), kind, ("prompt", p.toValue),
      ("reason", .text reason.code)]
  | .serviceError s f => .object [("failure", f.toValue), kind, ("stepId", .text s)]
  | .completed d ns m =>
    .object [("finalData", .object d), kind, ("message", (m.map Prompt.toValue).getD .null),
      ("notices", .list (ns.map Prompt.toValue))]

end StepResult

namespace Navigation

def toValue : Navigation → Value
  | .moved p => .object [("kind", .text "moved"), ("prompt", p.toValue)]
  | .notAllowed => .object [("kind", .text "not_allowed")]

end Navigation

end Dialogue
