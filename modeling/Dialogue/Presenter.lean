import Dialogue.Catalog
import Dialogue.Engine
import Dialogue.Files

namespace Dialogue

/-- Catalogs by locale, and the locale that stands in for missing messages. -/
structure Presenter where
  catalogs : List (String × Catalog) := []
  defaultLocale : String

namespace Presenter

def addCatalog (p : Presenter) (locale : String) (c : Catalog) : Presenter :=
  { p with catalogs := (locale, c) :: p.catalogs.filter (·.1 ≠ locale) }

def addFiles (p : Presenter) : List (String × Option String) → Except Error Presenter
  | [] => .ok p
  | (_, none) :: _ => .error .files
  | (name, some text) :: rest => do
    let c ← Catalog.ofText text
    (p.addCatalog (Files.splitName name).1 c).addFiles rest

def loadDirectory (p : Presenter) (fs : Files) (path : List String) : Except Error Presenter :=
  match fs.yamlFiles? path with
  | some found => p.addFiles found
  | none => .error .files

def message? (p : Presenter) (locale key : String) : Option String :=
  (p.catalogs.lookup locale).bind (·.get? key)

def lookup? (p : Presenter) (locale : Option String) (key : String) : Option String :=
  (locale.bind fun l => p.message? l key).or (p.message? p.defaultLocale key)

def text (p : Presenter) (locale : Option String) (key fallback : String) : String :=
  (p.lookup? locale key).getD fallback

/-- A message with variables put in; a key without a message is the message itself. -/
def fill (p : Presenter) (locale : Option String) (key : String) (vars : Record) : String :=
  Template.renderText (p.text locale key key) vars

def progressRecord (pr : Progress) : Record :=
  [("current", .number (.integer pr.current)), ("total", .number (.integer pr.total))]

def progressLine (p : Presenter) (locale : Option String) (pr : Progress) : String :=
  Template.renderText
    (p.text locale "progress" "(\x7b\x7b current \x7d\x7d/\x7b\x7b total \x7d\x7d)")
    (progressRecord pr)

def choiceLine (p : Presenter) (locale : Option String) (vars : Record) (c : ShownChoice) :
    String :=
  toString c.index ++ ". " ++ p.fill locale c.labelKey vars

/-- The lines of a prompt: why an answer was refused, the message unless it is empty, the choices,
the progress, and a hint that one may go back. -/
def lines (p : Presenter) (locale : Option String) (prompt : Prompt) : List String :=
  let message := p.fill locale prompt.promptKey prompt.vars
  (match prompt.error with
    | some reason => [p.text locale ("errors." ++ reason.code) reason.code]
    | none => []) ++
  (if message.isEmpty then [] else [message]) ++
  prompt.choices.map (p.choiceLine locale prompt.vars) ++
  (match prompt.progress with
    | some pr => [p.progressLine locale pr]
    | none => []) ++
  (if prompt.allowBack then (p.lookup? locale "hints.back").toList else [])

def render (p : Presenter) (locale : Option String) (prompt : Prompt) : String :=
  "\n".intercalate (p.lines locale prompt)

def serviceUnavailable (p : Presenter) (locale : Option String) : String :=
  p.text locale "errors.service_unavailable"
    "The service is temporarily unavailable, please try again."

def genericFailure (p : Presenter) (locale : Option String) : String :=
  p.text locale "errors.generic_failure" "Something went wrong."

def tryAgain (p : Presenter) (locale : Option String) : String :=
  p.text locale "errors.try_again" "Please send your message again."

def backNotAllowed (p : Presenter) (locale : Option String) : String :=
  p.text locale "errors.back_not_allowed" "You cannot go back from here."

def cancelled (p : Presenter) (locale : Option String) : String :=
  p.text locale "system.cancelled" "Cancelled."

def renderResult (p : Presenter) (locale : Option String) : StepResult → List String
  | .awaitingInput prompt notices => (notices ++ [prompt]).map (p.render locale)
  | .validationError _ prompt _ => [p.render locale prompt]
  | .serviceError _ _ => [p.serviceUnavailable locale]
  | .completed _ notices message => (notices ++ message.toList).map (p.render locale)

def renderNavigation (p : Presenter) (locale : Option String) : Navigation → String
  | .moved prompt => p.render locale prompt
  | .notAllowed => p.backNotAllowed locale

end Presenter

end Dialogue
