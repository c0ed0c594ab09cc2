import Dialogue.Value.Basic
import Dialogue.Instant

namespace Dialogue

/-- A count in 32 bits. -/
instance count32 : Coe Nat UInt32 := ⟨UInt32.ofNat⟩

/-- The state of a conversation. Without a workflow it is idle; the version counts the writes. The
counter of attempts has 32 bits and begins again when they are used up. -/
structure Context where
  workflowId : Option String := none
  currentStepId : Option String := none
  vars : Record := []
  history : List String := []
  startedAt : Option Instant := none
  retryCount : UInt32 := 0
  version : Nat := 0
deriving DecidableEq, Inhabited

namespace Context

def start (workflowId stepId : String) (now : Instant) : Context :=
  { workflowId := some workflowId, currentStepId := some stepId, startedAt := some now }

def isActive (c : Context) : Bool := c.workflowId.isSome && c.currentStepId.isSome

/-- The context at a step; attempts are counted anew at another step. -/
def moveTo (c : Context) (stepId : String) : Context :=
  { c with
    currentStepId := some stepId
    retryCount := if c.currentStepId = some stepId then c.retryCount else 0 }

def set (c : Context) (name : String) (value : Value) : Context :=
  { c with vars := c.vars.insert name value }

def get? (c : Context) (name : String) : Option Value := c.vars.get? name

def merge (c : Context) (data : Record) : Context :=
  { c with vars := c.vars.merge data }

def lastEntries (limit : Nat) (entries : List String) : List String :=
  entries.drop (entries.length - limit)

/-- A history with a visit added, unless the step was visited last; at most `limit` visits are
kept, the oldest ones being dropped. -/
def extendHistory (limit : Nat) (history : List String) (stepId : String) : List String :=
  if history.getLast? = some stepId then history else lastEntries limit (history ++ [stepId])

def visit (c : Context) (stepId : String) (limit : Nat) : Context :=
  { c with history := extendHistory limit c.history stepId }

/-- Forgets everything but the version. -/
def clear (c : Context) : Context := { version := c.version }

end Context

end Dialogue
