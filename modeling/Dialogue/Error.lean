import Dialogue.Condition

namespace Dialogue

/-- A defect of a workflow. The place of a transition in a step is named by `slot`. -/
inductive Violation where
  | emptyId
  | noSteps
  | reservedId
  | duplicateStep (step : String)
  | missingStart (step : String)
  | noKind (step : String)
  | noChoices (step : String)
  | noAction (step : String)
  | pauseElsewhere (step : String)
  | errorBranchWithoutAction (step : String)
  | invalidPattern (step : String)
  | unknownTarget (step slot target : String)
  | noBranches (step slot : String)
  | badCondition (step slot : String) (cause : ConditionError)
  | alreadyRegistered (workflow : String)
deriving DecidableEq

inductive Error where
  | workflowNotFound (workflow : String)
  | invalidWorkflow (workflow : String) (violations : List Violation)
  | stepNotFound (workflow step : String)
  | unresolvedTransition (workflow step : String)
  | stuck (workflow step : String) (limit : Nat)
  | unknownAction (workflow action : String)
  | noActiveWorkflow
  | versionConflict (session : String) (expected found : Option Nat)
  | configuration (text : String)
  | files
  | database
  | migration
  | malformedValue
  | malformedDocument
  | connection
  | internal (text : String)
deriving DecidableEq

namespace Violation

def message : Violation → String
  | .emptyId => "workflow id is empty"
  | .noSteps => "workflow has no steps"
  | .reservedId => "`END` is reserved and cannot be a step id"
  | .duplicateStep s => "duplicate step id `" ++ s ++ "`"
  | .missingStart s => "start step `" ++ s ++ "` does not exist"
  | .noKind s => "step `" ++ s ++ "` has no kind"
  | .noChoices s => "choice step `" ++ s ++ "` declares no choices"
  | .noAction s => "service step `" ++ s ++ "` declares no action"
  | .pauseElsewhere s => "step `" ++ s ++ "` uses `pause` but is not a message step"
  | .errorBranchWithoutAction s => "step `" ++ s ++ "` has `onError` but no action"
  | .invalidPattern s => "step `" ++ s ++ "` has an invalid pattern"
  | .unknownTarget s slot t =>
    "step `" ++ s ++ "` " ++ slot ++ " target `" ++ t ++ "` does not exist"
  | .noBranches s slot => "step `" ++ s ++ "` " ++ slot ++ " has no branches"
  | .badCondition s slot e => "step `" ++ s ++ "` " ++ slot ++ ": " ++ e.message
  | .alreadyRegistered w => "workflow `" ++ w ++ "` is already registered"

end Violation

namespace Error

def versionText : Option Nat → String
  | some n => "Some(" ++ toString n ++ ")"
  | none => "None"

def message : Error → String
  | .workflowNotFound w => "Workflow not found: " ++ w
  | .invalidWorkflow w vs =>
    "Invalid workflow definition `" ++ w ++ "`: " ++ "; ".intercalate (vs.map (·.message))
  | .stepNotFound w s => "Step `" ++ s ++ "` not found in workflow `" ++ w ++ "`"
  | .unresolvedTransition w s =>
    "No transition matched after step `" ++ s ++ "` in workflow `" ++ w ++ "`"
  | .stuck w s limit =>
    "Workflow `" ++ w ++ "` exceeded " ++ toString limit ++ " automatic steps at `" ++ s ++ "`"
  | .unknownAction w a => "Action `" ++ a ++ "` is not registered for workflow `" ++ w ++ "`"
  | .noActiveWorkflow => "No active workflow for this session"
  | .versionConflict k expected found =>
    "Version conflict for session " ++ k ++ ": expected " ++ versionText expected ++ ", found " ++
      versionText found
  | .configuration text => "Configuration error: " ++ text
  | .files => "Files cannot be read or written"
  | .database => "The database failed"
  | .migration => "The database could not be set up"
  | .malformedValue => "Malformed value"
  | .malformedDocument => "Malformed document"
  | .connection => "The connection failed"
  | .internal text => "Internal error: " ++ text

/-- Whether the cause is the set-up or a workflow rather than a user or a service. -/
def isConfiguration : Error → Bool
  | .workflowNotFound _ | .invalidWorkflow _ _ | .stepNotFound _ _ | .unresolvedTransition _ _
  | .stuck _ _ _ | .unknownAction _ _ | .configuration _ => true
  | _ => false

/-- Whether trying again may help. -/
def isTransient : Error → Bool
  | .versionConflict _ _ _ => true
  | _ => false

end Error

end Dialogue
