import Dialogue.Workflow.Record
import Dialogue.Yaml.Reader
import Dialogue.Error

namespace Dialogue.Workflow

def ofValue (v : Value) : Except Error Workflow :=
  match ofDocument? (.ofValue v) with
  | some w => .ok w
  | none => .error .malformedValue

def ofText (text : String) : Except Error Workflow :=
  match Document.ofText? text with
  | some (some d) =>
    match ofDocument? d with
    | some w => .ok w
    | none => .error .malformedDocument
  | _ => .error .malformedDocument

end Dialogue.Workflow
