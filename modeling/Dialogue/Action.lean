import Dialogue.Interaction
import Dialogue.Text.Escaped
import Dialogue.Value.Text
import Dialogue.Workflow.Basic

namespace Dialogue

structure SessionRef where
  key : String
  locale : Option String := none
deriving DecidableEq

structure Request where
  workflowId : String
  stepId : String
  params : Record
  vars : Record
  rawInput : String
  session : SessionRef
deriving DecidableEq

/-- What an action reports: whether it succeeded, where to go instead of the declared transition,
and data for the variables. -/
structure Report where
  success : Bool := false
  nextStepOverride : Option String := none
  data : Option Record := none
deriving DecidableEq

inductive CallFailure where
  | timeout
  | error (message : String)
deriving DecidableEq

abbrev CallResult := Except CallFailure Report

inductive Ending where
  | reported (r : Report)
  | failed (message : String)
  | panicked (message : String)
deriving DecidableEq

/-- The registered handlers, for one workflow or for all; the newest ones come first. -/
structure Actions (H : Type) where
  own : List ((String × String) × H) := []
  shared : List (String × H) := []

namespace CallFailure

/-- The code of a failure, which error branches find in the variables. -/
def code : CallFailure → String
  | .timeout => "timeout"
  | .error message => message

end CallFailure

namespace Request

/-- A parameter, or the variable of its name when it is missing or null. -/
def param? (r : Request) (name : String) : Option Value :=
  match r.params.get? name with
  | some v => if v.isNull then r.vars.get? name else some v
  | none => r.vars.get? name

def paramText? (r : Request) (name : String) : Option String := (r.param? name).bind Value.text?

end Request

namespace Report

def ok : Report := { success := true }

def failed : Report := {}

def goto (r : Report) (stepId : String) : Report := { r with nextStepOverride := some stepId }

def withData (r : Report) (name : String) (value : Value) : Report :=
  { r with data := some ((r.data.getD []).insert name value) }

/-- Whether the conversation goes on as after a success: it succeeded, or it says where to go. -/
def goesOn (r : Report) : Bool := r.success || r.nextStepOverride.isSome

def toValue (r : Report) : Value :=
  .object (
    (match r.data with
      | some d => [("data", .object d)]
      | none => []) ++
    (match r.nextStepOverride with
      | some s => [("nextStepOverride", .text s)]
      | none => []) ++
    [("success", .bool r.success)])

def found : Value → String
  | .null => "null"
  | .bool true => "boolean `true`"
  | .bool false => "boolean `false`"
  | .number (.integer n) => "integer `" ++ String.ofList (Double.intChars n) ++ "`"
  | .number (.double d) => "floating point `" ++ String.ofList (Value.layout.chars d) ++ "`"
  | .text s => "string " ++ Text.escaped s
  | .list _ => "sequence"
  | .object _ => "map"

def wrongType (v : Value) (expected : String) : String :=
  "invalid type: " ++ found v ++ ", expected " ++ expected

def readField (r : Report) (name : String) (v : Value) : Except String Report :=
  match name, v with
  | "success", .bool b => .ok { r with success := b }
  | "success", v => .error (wrongType v "a boolean")
  | "nextStepOverride", .null => .ok { r with nextStepOverride := none }
  | "nextStepOverride", .text s => .ok { r with nextStepOverride := some s }
  | "nextStepOverride", v => .error (wrongType v "a string")
  | "data", .null => .ok { r with data := none }
  | "data", .object d => .ok { r with data := some d }
  | "data", v => .error (wrongType v "a map")
  | _, _ => .ok r

def readFields (r : Report) : List (String × Value) → Except String Report
  | [] => .ok r
  | (k, v) :: rest => do
    let r ← r.readField k v
    r.readFields rest

def fieldNames : List String := ["success", "nextStepOverride", "data"]

def ofValue : Value → Except String Report
  | .object fields => do
    let r ← readFields {} fields
    if (Record.get? fields "success").isNone then .error "missing field `success`" else .ok r
  | .list items => do
    let r ← readFields {} (fieldNames.zip items)
    if items.length < 3 then
      .error ("invalid length " ++ toString items.length ++
        ", expected struct ActionResult with 3 elements")
    else if 3 < items.length then
      .error ("invalid length " ++ toString items.length ++
        ", expected fewer elements in array")
    else .ok r
  | v => .error (wrongType v "struct ActionResult")

end Report

namespace Actions

variable {H : Type}

def register (a : Actions H) (workflowId name : String) (handler : H) : Actions H :=
  { a with own := ((workflowId, name), handler) :: a.own }

/-- Registers a handler for every workflow without one of its own, replacing an earlier one. -/
def registerShared (a : Actions H) (name : String) (handler : H) : Actions H :=
  { a with shared := (name, handler) :: a.shared }

def get? (a : Actions H) (workflowId name : String) : Option H :=
  (a.own.lookup (workflowId, name)).or (a.shared.lookup name)

def contains (a : Actions H) (workflowId name : String) : Bool := (a.get? workflowId name).isSome

def missingFor (a : Actions H) (w : Workflow) : List String :=
  w.actionNames.filter fun name => !a.contains w.id name

end Actions

namespace Ending

/-- The result of a call whose handler ends in a way after some milliseconds; beyond the limit the
call times out. -/
def settle (limit : Option Nat) (elapsed : Nat) (e : Ending) : CallResult :=
  if limit.any (· < elapsed) then .error .timeout
  else match e with
    | .reported r => .ok r
    | .failed message => .error (.error message)
    | .panicked message =>
      .error (.error ("action task aborted: task N panicked with message " ++ Text.escaped message))

end Ending

end Dialogue
