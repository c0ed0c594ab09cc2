import Dialogue.CommandLine
import Dialogue.Pattern.Reader
import Dialogue.Presenter
import Dialogue.Settings
import Dialogue.Settings.EnvironmentFile
import Dialogue.Tally
import Dialogue.Taxpayer.Action
import Dialogue.Taxpayer.Directory
import Dialogue.Taxpayer.Gateway
import Dialogue.Url.Reader
import Dialogue.Workflow.Directory

namespace Dialogue

inductive TaxpayerService where
  | directory (d : Directory)
  | gateway (g : Gateway)

/-- What surrounds a console: the time, and what comes back for a request. -/
structure Surroundings where
  now : Instant
  fetch : FetchRequest → Except String FetchResponse

structure Console where
  conversation : Conversation TaxpayerAction
  presenter : Presenter
  service : TaxpayerService
  session : SessionRef
  store : SessionStore
  tally : Tally := {}

namespace TaxpayerService

def answer (s : TaxpayerService) (around : Surroundings) (q : Inquiry) : q.Answer :=
  match s with
  | .directory d => d.answer q
  | .gateway g => (Interaction.run (fun u r => (around.fetch r, u)) () (g.inquire q)).1

def call (s : TaxpayerService) (around : Surroundings) (c : Call TaxpayerAction) : CallResult :=
  let answer := fun (u : Unit) q => (s.answer around q, u)
  let outcome := (Interaction.run answer () (c.handler.run c.request)).1
  (TaxpayerAction.ending outcome).settle none 0

def ofSettings (s : Settings) (o : ConsoleOptions) (fs : Files) :
    Except Error TaxpayerService :=
  match s.gatewayUrl, o.directory with
  | some url, _ => .ok (.gateway (Gateway.make url s.gatewayToken))
  | none, some path => (Directory.ofFile fs (Files.path? path)).map .directory
  | none, none => .ok (.directory {})

end TaxpayerService

namespace Console

def answer (around : Surroundings) (c : Console) : (q : Query TaxpayerAction) → q.Answer × Console
  | .load key => (c.store.load key, c)
  | .save key context expected =>
    match c.store.save key context expected with
    | .ok store => (.ok (), { c with store })
    | .error e => (.error e, c)
  | .clear key => (.ok (), { c with store := c.store.clear key })
  | .call call => (c.service.call around call, c)
  | .now => (around.now, c)
  | .note n => ((), { c with tally := c.tally.note n })

def messages (p : Presenter) (locale : Option String) : Except Error Reply → List String × Bool
  | .ok (.step result) =>
    (p.renderResult locale result,
      match result with
      | .awaitingInput prompt _ => !prompt.expectsInput
      | _ => false)
  | .ok (.back navigation) => ([p.renderNavigation locale navigation], false)
  | .ok .cancelled => ([p.cancelled locale], false)
  | .ok .idle => ([], false)
  | .error .noActiveWorkflow => ([], false)
  | .error e => ([if e.isTransient then p.tryAgain locale else p.genericFailure locale], false)

def handle (around : Surroundings) (c : Console) (line : String) : Except Error Reply × Console :=
  Interaction.run (answer around) c (c.conversation.handleInput c.session line)

/-- Shows a reply, and continues messages that wait for it; `limit` bounds how often. -/
def present (around : Surroundings) : Nat → Console → Except Error Reply → List String × Console
  | limit, c, reply =>
    let (shown, waits) := messages c.presenter c.session.locale reply
    match waits, limit with
    | true, limit + 1 =>
      let (reply, c) := c.handle around ""
      let (more, c) := present around limit c reply
      (shown ++ more, c)
    | _, _ => (shown, c)

def continuations (c : Console) : Nat := c.conversation.engine.limits.maxAutoSteps

def start (around : Surroundings) (c : Console) (workflowId : String) : List String × Console :=
  let (result, c) :=
    Interaction.run (answer around) c (c.conversation.startWorkflow c.session workflowId)
  present around c.continuations c (result.map .step)

def line (around : Surroundings) (c : Console) (text : String) : List String × Console :=
  let (reply, c) := c.handle around text
  present around c.continuations c reply

def make (s : Settings) (o : ConsoleOptions) (disk : Disk) (freshKey : String) :
    Except Error Console := do
  let registry ←
    match Files.path? s.workflowsDirectory with
    | none => .error .files
    | some path =>
      let (registry, outcome) := Registry.loadDirectory {} disk.files path
      outcome.map fun _ => registry
  let service ← TaxpayerService.ofSettings s o disk.files
  let engine : Engine TaxpayerAction := {
    registry, actions := TaxpayerAction.registerAll id {} {}, limits := s.limits }
  let store ← disk.openStore s.database
  let presenter ←
    match Files.path? s.localesDirectory with
    | none => .error .files
    | some path => Presenter.loadDirectory { defaultLocale := s.defaultLocale } disk.files path
  let conversation ← Conversation.make engine s.words s.autoStart
  .ok {
    conversation, presenter, service, store
    session := { key := o.session.getD freshKey, locale := o.locale } }

/-- What a message looks like on the console: an empty line follows. -/
def block (message : String) : String := message ++ "\n\n"

def settings (env : Environment) (fs : Files) : Except Error Settings :=
  let env := match fs.read? [".env"] with
    | some text => EnvironmentFile.extend env text
    | none => env
  Settings.ofLookup fun key => env.lookup key

def lineText (cs : List Char) : String := String.ofList (Text.withoutEnd cs)

def lines (around : Surroundings) (c : Console) : List String → List String × Console
  | [] => ([], c)
  | text :: rest =>
    let (shown, c) := c.line around text
    let (more, c) := lines around c rest
    (shown ++ more, c)

/-- What the program prints and how it ends: 0 when all went well, 1 when it could not start. -/
structure Outcome where
  output : String
  exitCode : Nat
deriving DecidableEq

def greet (around : Surroundings) (o : ConsoleOptions) (c : Console) : List String × Console :=
  match o.workflow with
  | some id => c.start around id
  | none => ([], c)

def farewell (o : ConsoleOptions) (c : Console) : String :=
  if o.metrics then c.tally.render ++ "\n" else ""

def run (around : Surroundings) (o : ConsoleOptions) (env : Environment) (disk : Disk)
    (freshKey input : String) : Outcome × Disk :=
  match settings env disk.files with
  | .error _ => (⟨"", 1⟩, disk)
  | .ok s =>
    match make s o disk freshKey with
    | .error _ => (⟨"", 1⟩, disk)
    | .ok c =>
      let (greeting, c) := greet around o c
      let (shown, c) := lines around c ((Text.linesWithEnds input.toList).map lineText)
      let output := String.join ((greeting ++ shown).map block) ++ farewell o c
      (⟨output, 0⟩, disk.keep s.database c.store)

/-- A key for a session from random numbers: 32 digits to the base 16, one of which is always 4 and
one always from 8 to 11. -/
def freshKey (bytes : List UInt8) : String :=
  let digits := (bytes.take 16).flatMap fun b => [b.toNat / 16, b.toNat % 16]
  let digits := (digits.set 12 4).modify 16 fun d => 8 + d % 4
  let cs := digits.map Nat.digitChar
  let group (first count : Nat) : String := String.ofList ((cs.drop first).take count)
  "console-" ++ "-".intercalate [group 0 8, group 8 4, group 12 4, group 16 4, group 20 12]

end Console

end Dialogue
