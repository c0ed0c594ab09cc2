import Dialogue.Text.Names
import Dialogue.Rule
import Dialogue.Template
import Dialogue.Condition

namespace Dialogue

/-- What a step does: ask for an answer, offer choices, show a message, or call a service. -/
inductive StepKind where
  | input | choice | message | service
deriving DecidableEq

/-- One of several ways on; without a condition it is always open. -/
structure Branch where
  condition : Option String := none
  target : String
deriving DecidableEq

/-- Where a step leads: to a fixed target or to that of the first open branch. -/
inductive Transition where
  | fixed (target : String)
  | branches (bs : List Branch)
deriving DecidableEq

/-- The place a transition leads to: another step or the end of the workflow. -/
inductive Destination where
  | step (id : String)
  | finish
deriving DecidableEq

/-- A step of a workflow. Without `next` it is the last one; `onError` is the way on when its
action fails. -/
structure Step where
  id : String
  kind : Option StepKind := none
  promptKey : String := ""
  validation : Option Rule := none
  choices : List Choice := []
  action : Option String := none
  params : List (String × Template) := []
  next : Option Transition := none
  onError : Option Transition := none
  allowBack : Bool := true
  allowSystemCommands : Bool := true
  pause : Bool := false
deriving DecidableEq

structure Workflow where
  id : String
  startStepId : String
  steps : List Step
  showProgress : Bool := false
  onComplete : Option String := none
  completionPromptKey : Option String := none
deriving DecidableEq

/-- The position of a step among those that ask for an answer. -/
structure Progress where
  current : Nat
  total : Nat
deriving DecidableEq

def endTarget : String := "END"

namespace StepKind

def isInteractive : StepKind → Bool
  | .input | .choice => true
  | .message | .service => false

def word : StepKind → String
  | .input => "input"
  | .choice => "choice"
  | .message => "message"
  | .service => "service"

def ofWord? (w : String) : Option StepKind :=
  [.input, .choice, .message, .service].find? (·.word = w)

end StepKind

namespace Destination

def ofTarget (target : String) : Destination :=
  if target = endTarget then .finish else .step target

def target : Destination → String
  | .step id => id
  | .finish => endTarget

end Destination

namespace Branch

/-- Whether the branch is open. A condition that cannot be read keeps it closed. -/
def isOpen (b : Branch) (vars : Record) : Bool :=
  match b.condition with
  | none => true
  | some text =>
    match Condition.parse text with
    | .ok c => c.holds vars
    | .error _ => false

end Branch

namespace Transition

def targets : Transition → List String
  | .fixed target => [target]
  | .branches bs => bs.map (·.target)

/-- The destination under the variables; none if no branch is open. -/
def resolve (t : Transition) (vars : Record) : Option Destination :=
  match t with
  | .fixed target => some (.ofTarget target)
  | .branches bs => (bs.find? (·.isOpen vars)).map fun b => .ofTarget b.target

end Transition

namespace Step

def isInteractive (s : Step) : Bool := s.kind.any (·.isInteractive)

end Step

namespace Workflow

def step? (w : Workflow) (id : String) : Option Step := w.steps.find? (·.id = id)

def actionNames (w : Workflow) : List String :=
  Text.sortNames (w.steps.filterMap (·.action) ++ w.onComplete.toList)

def progress? (w : Workflow) (stepId : String) : Option Progress :=
  let interactive := w.steps.filter (·.isInteractive)
  (interactive.findIdx? (·.id = stepId)).map fun i => ⟨i + 1, interactive.length⟩

end Workflow

end Dialogue
