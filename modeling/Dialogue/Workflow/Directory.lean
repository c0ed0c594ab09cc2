import Dialogue.Files
import Dialogue.Workflow.Document
import Dialogue.Workflow.Registry

namespace Dialogue.Registry

def registerText (r : Registry) (text : String) : Except Error Registry := do
  let w ← Workflow.ofText text
  r.register w

/-- Registers the workflows of files in turn up to the first that fails. What was registered before
stays; the result is the number of workflows or the failure. -/
def registerFiles (r : Registry) (count : Nat) :
    List (String × Option String) → Registry × Except Error Nat
  | [] => (r, .ok count)
  | (_, none) :: _ => (r, .error .files)
  | (_, some text) :: rest =>
    match r.registerText text with
    | .ok r => registerFiles r (count + 1) rest
    | .error e => (r, .error e)

def loadDirectory (r : Registry) (fs : Files) (path : List String) : Registry × Except Error Nat :=
  match fs.yamlFiles? path with
  | some found => r.registerFiles 0 found
  | none => (r, .error .files)

end Dialogue.Registry
