import Dialogue.Conversation.Command
import Dialogue.Engine

namespace Dialogue

inductive Note where
  | turn (workflowId result : String)
  | command (c : Command)
  | conflict
deriving DecidableEq

/-- What a turn asks its surroundings: the store, the actions, the clock and the tallies. -/
inductive Query (H : Type) where
  | load (session : String)
  | save (session : String) (c : Context) (expected : Option Nat)
  | clear (session : String)
  | call (c : Call H)
  | now
  | note (n : Note)

abbrev Query.Answer {H : Type} : Query H → Type
  | .load _ => Except Error (Option Context)
  | .save _ _ _ => Except Error Unit
  | .clear _ => Except Error Unit
  | .call _ => CallResult
  | .now => Instant
  | .note _ => Unit

abbrev Exchange (H : Type) := Interaction (Query H) Query.Answer

inductive TurnRequest where
  | start (workflowId : String)
  | input (text : String)
  | back
deriving DecidableEq

inductive Reply where
  | step (result : StepResult)
  | back (navigation : Navigation)
  | cancelled
  | idle
deriving DecidableEq

/-- An engine with the words for commands, and the workflow that a message to an idle session
starts. -/
structure Conversation (H : Type) where
  engine : Engine H
  words : CommandWords := {}
  autoStart : Option String := none

def Calling.toExchange {H α : Type} : Calling H α → Exchange H α
  | .done a => .done a
  | .ask c resume => .ask (.call c) fun answer => Calling.toExchange (resume answer)

namespace Error

def isConflict : Error → Bool
  | .versionConflict _ _ _ => true
  | _ => false

end Error

namespace Conversation

variable {H : Type}

def missingActions (e : Engine H) : List String :=
  e.registry.ids.filterMap fun id =>
    (e.registry.get? id).bind fun w =>
      let missing := e.actions.missingFor w
      if missing.isEmpty then none
      else some ("workflow `" ++ id ++ "` uses unregistered actions: " ++ ", ".intercalate missing)

/-- A conversation, provided that every action in use has a handler and that the workflow to start
is registered. -/
def make (engine : Engine H) (words : CommandWords) (autoStart : Option String) :
    Except Error (Conversation H) := do
  let problems := missingActions engine
  if problems.isEmpty then
    match autoStart with
    | some id => discard (engine.workflow id)
    | none => .ok ()
    .ok { engine, words, autoStart }
  else .error (.configuration ("; ".intercalate problems))

def noteOf (w : Workflow) : Except Error (Context × StepResult) → Option Note
  | .ok (_, result) => some (.turn w.id result.word)
  | .error e => if e.isConfiguration then some (.turn w.id "configuration_error") else none

def noted (w : Workflow) (t : Turn H) : Exchange H (Except Error (Context × StepResult)) := do
  let result ← Calling.toExchange t
  match noteOf w result with
  | some n =>
    Interaction.request (Query.note n)
    pure result
  | none => pure result

/-- A context to be saved, if there is anything to save, and the reply. -/
abbrev Applied := Except Error (Option Context × Reply)

/-- The context and result of a step as something to be saved and a reply. -/
def stepped (result : Except Error (Context × StepResult)) : Applied :=
  result.map fun r => (some r.1, .step r.2)

def start (c : Conversation H) (session : SessionRef) (workflowId : String) :
    Exchange H Applied :=
  match c.engine.workflow workflowId with
  | .error e => pure (.error e)
  | .ok w => do
    let now ← Interaction.request Query.now
    let result ← noted w (c.engine.begin w now session)
    pure (stepped result)

def back (c : Conversation H) (context : Context) : Exchange H Applied :=
  if context.isActive then
    match c.engine.goBack context with
    | .error e => pure (.error e)
    | .ok (_, .notAllowed) => pure (.ok (none, .back .notAllowed))
    | .ok (next, navigation) => do
      Interaction.request (Query.note (.command .back))
      pure (.ok (some next, .back navigation))
  else pure (.ok (none, .back .notAllowed))

/-- The command an input stands for, where the current step allows commands. -/
def command? (c : Conversation H) (context : Context) (input : String) :
    Except Error (Option Command) :=
  match c.words.recognize? input with
  | none => .ok none
  | some command =>
    match context.workflowId with
    | none => .error .noActiveWorkflow
    | some id => do
      let w ← c.engine.workflow id
      let step := context.currentStepId.bind w.step?
      .ok (if step.any (·.allowSystemCommands) then some command else none)

def obey (c : Conversation H) (session : SessionRef) (context : Context) :
    Command → Exchange H Applied
  | .back =>
    pure ((c.engine.goBack context).map fun r => (some r.1, .back r.2))
  | .cancel => pure (.ok (some (Engine.cancel context), .cancelled))
  | .restart => c.start session (context.workflowId.getD "")

/-- Runs the step a context is at with an input. -/
def advance (c : Conversation H) (session : SessionRef) (context : Context) (input : String) :
    Exchange H Applied :=
  match c.engine.locate context with
  | .error e => pure (.error e)
  | .ok (w, s) => do
    let result ← noted w (c.engine.resume w s context input session)
    pure (stepped result)

/-- Takes an input: a message to an idle session may start a workflow, a command is carried out, and
anything else is an answer. -/
def input (c : Conversation H) (session : SessionRef) (context : Context) (text : String) :
    Exchange H Applied :=
  if context.isActive then
    match c.command? context text with
    | .error e => pure (.error e)
    | .ok (some command) => do
      Interaction.request (Query.note (.command command))
      c.obey session context command
    | .ok none => c.advance session context text
  else
    match c.autoStart with
    | some id => c.start session id
    | none => pure (.ok (none, .idle))

def apply (c : Conversation H) (session : SessionRef) (context : Context) :
    TurnRequest → Exchange H Applied
  | .start id => c.start session id
  | .back => c.back context
  | .input text => c.input session context text

/-- Loads the context of a session, applies a request and saves the result. After a conflict it goes
on with the workflow that ran and the conflict. -/
def attempt (c : Conversation H) (session : SessionRef) (r : TurnRequest)
    (onConflict : Option String → Error → Exchange H (Except Error Reply)) :
    Exchange H (Except Error Reply) := do
  match ← Interaction.request (Query.load session.key) with
  | .error e => pure (.error e)
  | .ok stored =>
    let context := stored.getD {}
    match ← c.apply session context r with
    | .error e => pure (.error e)
    | .ok (none, reply) => pure (.ok reply)
    | .ok (some next, reply) =>
      let expected := stored.map (·.version)
      let next := { next with version := expected.getD 0 + 1 }
      match ← Interaction.request (Query.save session.key next expected) with
      | .ok () => pure (.ok reply)
      | .error e =>
        if e.isConflict then
          Interaction.request (Query.note .conflict)
          onConflict context.workflowId e
        else pure (.error e)

def turn (c : Conversation H) (session : SessionRef) (r : TurnRequest) :
    Exchange H (Except Error Reply) :=
  c.attempt session r fun running conflict => do
    match ← Interaction.request (Query.load session.key) with
    | .error e => pure (.error e)
    | .ok current =>
      if current.bind (·.workflowId) = running then
        c.attempt session r fun _ conflict => pure (.error conflict)
      else pure (.error conflict)

def startWorkflow (c : Conversation H) (session : SessionRef) (workflowId : String) :
    Exchange H (Except Error StepResult) := do
  match ← c.turn session (.start workflowId) with
  | .ok (.step result) => pure (.ok result)
  | .ok _ => pure (.error (.internal "unexpected reply to start"))
  | .error e => pure (.error e)

def handleInput (c : Conversation H) (session : SessionRef) (text : String) :
    Exchange H (Except Error Reply) :=
  c.turn session (.input text)

def goBack (c : Conversation H) (session : SessionRef) :
    Exchange H (Except Error Navigation) := do
  match ← c.turn session .back with
  | .ok (.back navigation) => pure (.ok navigation)
  | .ok _ => pure (.ok .notAllowed)
  | .error e => pure (.error e)

/-- Empties a session at once, whatever turn is under way. -/
def cancel (key : String) : Exchange H (Except Error Unit) := do
  Interaction.request (Query.note (.command .cancel))
  Interaction.request (Query.clear key)

end Conversation

end Dialogue
