import Dialogue.Action
import Dialogue.Context
import Dialogue.Workflow.Registry

namespace Dialogue

structure Limits where
  maxAutoSteps : Nat := 25
  historyLimit : Nat := 50
deriving DecidableEq

structure ShownChoice where
  index : Nat
  id : String
  labelKey : String
deriving DecidableEq

/-- What is shown of a step. A paused message expects no input but to be continued. -/
structure Prompt where
  workflowId : String := ""
  stepId : String := ""
  promptKey : String := ""
  choices : List ShownChoice := []
  progress : Option Progress := none
  allowBack : Bool := false
  expectsInput : Bool := true
  error : Option Reason := none
  vars : Record := []
deriving DecidableEq

/-- How a turn ends. Notices are the messages shown on the way. -/
inductive StepResult where
  | awaitingInput (prompt : Prompt) (notices : List Prompt)
  | validationError (reason : Reason) (prompt : Prompt) (attempt : UInt32)
  | serviceError (stepId : String) (failure : CallFailure)
  | completed (finalData : Record) (notices : List Prompt) (message : Option Prompt)
deriving DecidableEq

inductive Navigation where
  | moved (prompt : Prompt)
  | notAllowed
deriving DecidableEq

structure Call (H : Type) where
  handler : H
  request : Request

abbrev Calling (H : Type) := Interaction (Call H) (fun _ => CallResult)

abbrev Turn (H : Type) := Calling H (Except Error (Context × StepResult))

structure Engine (H : Type) where
  registry : Registry
  actions : Actions H
  limits : Limits := {}

/-- What the answer to a step's action leads to: on to a destination, nowhere because of a failure
without a way on, or an error. -/
inductive Outcome where
  | advance (c : Context) (d : Destination)
  | refuse (failure : CallFailure)
  | broken (e : Error)

namespace StepResult

def word : StepResult → String
  | .awaitingInput _ _ => "awaiting_input"
  | .validationError _ _ _ => "validation_error"
  | .serviceError _ _ => "service_error"
  | .completed _ _ _ => "completed"

end StepResult

namespace Report

/-- The failure that a report without success stands for: what its data says under `error`. -/
def failure (r : Report) : CallFailure :=
  match (r.data.bind (·.get? "error")).bind Value.text? with
  | some "timeout" => .timeout
  | some message => .error message
  | none => .error "action reported failure"

end Report

namespace Workflow

def prompt (w : Workflow) (s : Step) (c : Context) (error : Option Reason) : Prompt where
  workflowId := w.id
  stepId := s.id
  promptKey := s.promptKey
  choices := s.choices.mapIdx fun i ch => ⟨i + 1, ch.id, ch.labelKey⟩
  progress := if w.showProgress then w.progress? s.id else none
  allowBack := s.allowBack && s.isInteractive && decide (2 ≤ c.history.length)
  expectsInput := s.isInteractive
  error := error
  vars := c.vars

def completionPrompt (w : Workflow) (finalData : Record) : Option Prompt :=
  w.completionPromptKey.map fun key =>
    { workflowId := w.id, stepId := endTarget, promptKey := key, expectsInput := false,
      vars := finalData }

/-- Where a step leads under the variables; without a transition it ends the workflow. -/
def destination (w : Workflow) (s : Step) (c : Context) : Except Error Destination :=
  match s.next with
  | none => .ok .finish
  | some t =>
    match t.resolve c.vars with
    | some d => .ok d
    | none => .error (.unresolvedTransition w.id s.id)

def kindOf (w : Workflow) (s : Step) : Except Error StepKind :=
  match s.kind with
  | some k => .ok k
  | none => .error (.invalidWorkflow w.id [.noKind s.id])

def currentStep (w : Workflow) (c : Context) : Except Error Step :=
  match c.currentStepId with
  | none => .error .noActiveWorkflow
  | some id =>
    match w.step? id with
    | some s => .ok s
    | none => .error (.stepNotFound w.id id)

/-- Takes the error branch of a step after a failure, the data of the failed call being kept. The
code of the failure is kept too unless the data has one of its own. -/
def recover (w : Workflow) (s : Step) (c : Context) (failure : CallFailure)
    (data : Option Record) : Outcome :=
  match s.onError with
  | none => .refuse failure
  | some t =>
    let merged := c.merge (data.getD [])
    let told := ((data.getD []).get? "error").isSome
    let next := if told then merged else merged.set "error" (.text failure.code)
    match t.resolve next.vars with
    | some d => .advance next d
    | none => .broken (.unresolvedTransition w.id s.id)

/-- What the answer to a step's action leads to. A report that goes on clears the error variable,
its data is kept, and the step it names comes before the declared transition. -/
def settle (w : Workflow) (s : Step) (c : Context) : CallResult → Outcome
  | .error failure => w.recover s c failure none
  | .ok r =>
    if r.goesOn then
      let next := Context.merge { c with vars := c.vars.erase "error" } (r.data.getD [])
      match r.nextStepOverride with
      | some target => .advance next (.ofTarget target)
      | none =>
        match w.destination s next with
        | .ok d => .advance next d
        | .error e => .broken e
    else w.recover s c r.failure r.data

end Workflow

namespace Step

def resolvedParams (s : Step) (vars : Record) : Record :=
  s.params.map fun p => (p.1, p.2.resolve vars)

/-- Whether the step runs by itself and the turn goes on after it. -/
def isAutomatic (s : Step) : Bool := !s.isInteractive && !(s.kind = some .message ∧ s.pause)

def check (patterns : PatternReader) (s : Step) (kind : StepKind) (input : String) :
    Except Reason Value :=
  if kind = .choice then Choice.validate s.choices input else Rule.validate s.validation input

end Step

namespace Turn

variable {H : Type}

def fail (e : Error) : Turn H := .done (.error e)

def stop (c : Context) (r : StepResult) : Turn H := .done (.ok (c, r))

end Turn

namespace Engine

variable {H : Type}

abbrev patterns (e : Engine H) : PatternReader := e.registry.patterns

def workflow (e : Engine H) (id : String) : Except Error Workflow :=
  match e.registry.get? id with
  | some w => .ok w
  | none => .error (.workflowNotFound id)

def call (e : Engine H) (w : Workflow) (c : Context) (stepId action : String) (params : Record)
    (input : String) (session : SessionRef) (next : CallResult → Turn H) : Turn H :=
  match e.actions.get? w.id action with
  | none => .fail (.unknownAction w.id action)
  | some h => .ask ⟨h, ⟨w.id, stepId, params, c.vars, input, session⟩⟩ next

/-- Ends the workflow: its hook is called, and after a success nothing is left but the version. A
failure leads back to the snapshot. -/
def complete (e : Engine H) (w : Workflow) (input : String) (session : SessionRef)
    (c snapshot : Context) (notices : List Prompt) : Turn H :=
  let stepId := c.currentStepId.getD endTarget
  let finish (c : Context) : Turn H :=
    .stop c.clear (.completed c.vars notices (w.completionPrompt c.vars))
  match w.onComplete with
  | none => finish c
  | some hook =>
    e.call w c stepId hook [] input session fun
      | .ok r =>
        if r.success then finish (c.merge (r.data.getD []))
        else .stop snapshot (.serviceError stepId r.failure)
      | .error failure => .stop snapshot (.serviceError stepId failure)

/-- Calls the action of a step and goes where the answer leads. A failure without a way on leads
back to the snapshot. -/
def perform (e : Engine H) (w : Workflow) (input : String) (session : SessionRef) (s : Step)
    (action : String) (c snapshot : Context) (go : Context → Destination → Turn H) : Turn H :=
  e.call w c s.id action (s.resolvedParams c.vars) input session fun answer =>
    match w.settle s c answer with
    | .advance next d => go next d
    | .refuse failure => .stop snapshot (.serviceError s.id failure)
    | .broken err => .fail err

def runStep (e : Engine H) (w : Workflow) (input : String) (session : SessionRef) (s : Step)
    (c snapshot : Context) (go : Context → Destination → Turn H) : Turn H :=
  match s.action, s.kind with
  | some action, some .service => e.perform w input session s action c snapshot go
  | _, _ =>
    match w.destination s c with
    | .ok d => go c d
    | .error err => .fail err

/-- Goes to a destination, and on as long as steps run by themselves; `budget` is the number of
automatic steps that may still be entered. The snapshot is the context at the last step entered. -/
def follow (e : Engine H) (w : Workflow) (input : String) (session : SessionRef) :
    Nat → List Prompt → Context → Context → Destination → Turn H
  | _, notices, snapshot, c, .finish => e.complete w input session c snapshot notices
  | budget, notices, _, c, .step id =>
    match w.step? id with
    | none => .fail (.stepNotFound w.id id)
    | some s =>
      let here := c.moveTo s.id
      if s.isAutomatic then
        match budget with
        | 0 => .fail (.stuck w.id s.id e.limits.maxAutoSteps)
        | budget + 1 =>
          match s.kind with
          | none => .fail (.invalidWorkflow w.id [.noKind s.id])
          | some .message =>
            e.runStep w input session s here here
              (follow e w input session budget (notices ++ [w.prompt s here none]) here)
          | some _ =>
            e.runStep w input session s here here
              (follow e w input session budget notices here)
      else
        let shown := if s.isInteractive then here.visit s.id e.limits.historyLimit else here
        .stop shown (.awaitingInput (w.prompt s shown none) notices)

/-- Goes to a destination with the whole budget. -/
def goOn (e : Engine H) (w : Workflow) (input : String) (session : SessionRef)
    (snapshot c : Context) (d : Destination) : Turn H :=
  e.follow w input session e.limits.maxAutoSteps [] snapshot c d

def begin (e : Engine H) (w : Workflow) (now : Instant) (session : SessionRef) : Turn H :=
  let c := Context.start w.id w.startStepId now
  e.goOn w "" session c c (.step w.startStepId)

/-- Takes an answer at an interactive step: a refused one is counted, an accepted one is kept under
the id of the step. -/
def answer (e : Engine H) (w : Workflow) (s : Step) (kind : StepKind) (c : Context)
    (input : String) (session : SessionRef) : Turn H :=
  match s.check e.patterns kind input with
  | .error reason =>
    let counted := { c with retryCount := c.retryCount + 1 }
    .stop counted (.validationError reason (w.prompt s counted (some reason)) counted.retryCount)
  | .ok value =>
    let kept := Context.visit { c.set s.id value with retryCount := 0 } s.id e.limits.historyLimit
    match s.action with
    | some action => e.perform w input session s action kept c (e.goOn w input session c)
    | none =>
      match w.destination s kept with
      | .ok d => e.goOn w input session c kept d
      | .error err => .fail err

/-- Continues from the step a context is at, with the user's input. -/
def resume (e : Engine H) (w : Workflow) (s : Step) (c : Context) (input : String)
    (session : SessionRef) : Turn H :=
  match w.kindOf s with
  | .error err => .fail err
  | .ok kind =>
    if kind.isInteractive then e.answer w s kind c input session
    else e.runStep w input session s c c (e.goOn w input session c)

def locate (e : Engine H) (c : Context) : Except Error (Workflow × Step) :=
  match c.workflowId with
  | none => .error .noActiveWorkflow
  | some id => do
    let w ← e.workflow id
    let s ← w.currentStep c
    .ok (w, s)

def start (e : Engine H) (workflowId : String) (now : Instant) (session : SessionRef) : Turn H :=
  match e.workflow workflowId with
  | .ok w => e.begin w now session
  | .error err => .fail err

def processInput (e : Engine H) (c : Context) (input : String) (session : SessionRef) : Turn H :=
  match e.locate c with
  | .ok (w, s) => e.resume w s c input session
  | .error err => .fail err

/-- The history without its last entry if that is the current step. -/
def withoutCurrent (c : Context) (stepId : String) : List String :=
  if c.history.getLast? = some stepId then c.history.dropLast else c.history

/-- Steps back to the step visited before; the variables are kept. -/
def goBack (e : Engine H) (c : Context) : Except Error (Context × Navigation) := do
  let (w, s) ← e.locate c
  if !s.allowBack || !s.isInteractive || c.history.length < 2 then .ok (c, .notAllowed)
  else
    let earlier := { c with history := withoutCurrent c s.id }
    match earlier.history.getLast? with
    | none => .ok (earlier, .notAllowed)
    | some id =>
      match w.step? id with
      | none => .error (.stepNotFound w.id id)
      | some target =>
        let there := { earlier.moveTo target.id with retryCount := 0 }
        .ok (there, .moved (w.prompt target there none))

def cancel (c : Context) : Context := c.clear

end Engine

end Dialogue
