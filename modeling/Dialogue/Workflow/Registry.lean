import Dialogue.Workflow.Basic
import Dialogue.Error

namespace Dialogue

/-- The registered workflows, the first one registered last, and how their patterns are read. -/
structure Registry where
  workflows : List Workflow := []
  [patterns : PatternReader]

namespace Transition

/-- The defects of a transition in its place. -/
def violations (w : Workflow) (stepId slot : String) (t : Transition) : List Violation :=
  let unknown := (t.targets.filter fun target => target ≠ endTarget ∧ (w.step? target).isNone).map
    (Violation.unknownTarget stepId slot)
  match t with
  | .fixed _ => unknown
  | .branches bs =>
    unknown ++ (if bs.isEmpty then [.noBranches stepId slot] else []) ++
      bs.filterMap fun b => b.condition.bind fun text =>
        match Condition.parse text with
        | .ok _ => none
        | .error e => some (.badCondition stepId slot e)

end Transition

namespace Step

def kindViolations (s : Step) : List Violation :=
  match s.kind with
  | none => [.noKind s.id]
  | some .choice => if s.choices.isEmpty then [.noChoices s.id] else []
  | some .service => if s.action.isNone then [.noAction s.id] else []
  | some _ => []

def hasBadPattern (patterns : PatternReader) (s : Step) : Bool :=
  (s.validation.bind (·.pattern)).any fun p => (patterns.read? p).isNone

/-- The defects of a step. -/
def violations (patterns : PatternReader) (w : Workflow) (s : Step) : List Violation :=
  s.kindViolations ++
    (if s.pause ∧ s.kind ≠ some .message then [.pauseElsewhere s.id] else []) ++
    (if s.onError.isSome ∧ s.action.isNone then [.errorBranchWithoutAction s.id] else []) ++
    (if s.hasBadPattern patterns then [.invalidPattern s.id] else []) ++
    (match s.next with
      | some t => t.violations w s.id "next"
      | none => []) ++
    (match s.onError with
      | some t => t.violations w s.id "onError"
      | none => [])

end Step

namespace Workflow

/-- The defects of step ids, those in `seen` having occurred before. -/
def idViolations (seen : List String) : List Step → List Violation
  | [] => []
  | s :: rest =>
    (if s.id = endTarget then [.reservedId] else []) ++
      (if s.id ∈ seen then [.duplicateStep s.id] else []) ++ idViolations (s.id :: seen) rest

/-- All defects of a workflow. -/
def violations (patterns : PatternReader) (w : Workflow) : List Violation :=
  (if (Text.trim w.id).isEmpty then [.emptyId] else []) ++
    (if w.steps.isEmpty then [.noSteps] else []) ++
    idViolations [] w.steps ++
    (if (w.step? w.startStepId).isNone then [.missingStart w.startStepId] else []) ++
    w.steps.flatMap (Step.violations patterns w)

end Workflow

namespace Registry

def get? (r : Registry) (id : String) : Option Workflow := r.workflows.find? (·.id = id)

def ids (r : Registry) : List String := Text.sortNames (r.workflows.map (·.id))

def size (r : Registry) : Nat := r.workflows.length

/-- The defects that keep a workflow out of the registry. -/
def violations (r : Registry) (w : Workflow) : List Violation :=
  w.violations r.patterns ++ if (r.get? w.id).isSome then [.alreadyRegistered w.id] else []

/-- Adds a workflow without defects whose id is new. -/
def register (r : Registry) (w : Workflow) : Except Error Registry :=
  if (r.violations w).isEmpty then .ok { r with workflows := w :: r.workflows }
  else .error (.invalidWorkflow w.id (r.violations w))

end Registry

end Dialogue
