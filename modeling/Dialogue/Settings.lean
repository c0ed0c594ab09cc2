import Dialogue.Conversation.Command
import Dialogue.Session.Database
import Dialogue.Engine
import Dialogue.Text.Escaped
import Dialogue.Value.Numeral

namespace Dialogue

structure Settings where
  limits : Limits := {}
  actionTimeoutSeconds : Nat := 10
  autoStart : Option String := none
  workflowsDirectory : String := "workflows"
  localesDirectory : String := "locales"
  defaultLocale : String := "fr"
  words : CommandWords := {}
  database : DatabaseSettings := {}
  gatewayUrl : Option String := none
  gatewayToken : Option String := none
deriving DecidableEq

namespace Settings

/-- A text that is set: surrounding blanks do not count, and nothing but blanks is not set. -/
def set? (lookup : String → Option String) (key : String) : Option String :=
  ((lookup key).map Text.trim).filter fun s => !s.isEmpty

def number (lookup : String → Option String) (key : String) (bound default : Nat) :
    Except Error Nat :=
  match set? lookup key with
  | none => .ok default
  | some text =>
    match Numeral.natural? bound text.toList with
    | some n => .ok n
    | none => .error (.configuration ("Invalid value `" ++ text ++ "` for " ++ key))

/-- The words of a list with commas, in lower case and without blanks around them. -/
def wordList (text : String) : List String :=
  ((text.toList.splitOn ',').map fun cs =>
    Text.lowercase (Text.trim (String.ofList cs))).filter fun s => !s.isEmpty

def commandWords (lookup : String → Option String) (key : String) (default : List String) :
    List String :=
  ((set? lookup key).map wordList).getD default

def databaseKind (lookup : String → Option String) : Except Error DatabaseKind :=
  let word := Text.lowercase ((set? lookup "DATABASE_TYPE").getD "memory")
  match DatabaseKind.ofWord? word with
  | some k => .ok k
  | none => .error (.configuration ("Unsupported DATABASE_TYPE `" ++ word ++ "`"))

def validate (s : Settings) : Except Error Unit :=
  if s.limits.maxAutoSteps = 0 then
    .error (.configuration "ENGINE_MAX_AUTO_STEPS must be at least 1")
  else if s.limits.historyLimit < 2 then
    .error (.configuration "ENGINE_HISTORY_LIMIT must be at least 2")
  else if s.actionTimeoutSeconds = 0 then
    .error (.configuration "ACTION_TIMEOUT_SECS must be at least 1")
  else s.database.validate

def keys : List String := [
  "ENGINE_MAX_AUTO_STEPS", "ENGINE_HISTORY_LIMIT", "ACTION_TIMEOUT_SECS", "AUTO_START_WORKFLOW",
  "WORKFLOWS_DIR", "LOCALES_DIR", "DEFAULT_LOCALE", "BACK_COMMANDS", "CANCEL_COMMANDS",
  "RESTART_COMMANDS", "DATABASE_TYPE", "SQLITE_PATH", "DATABASE_MAX_CONNECTIONS",
  "VERIFICATION_BASE_URL", "VERIFICATION_AUTH_TOKEN"]

def ofLookup (lookup : String → Option String) : Except Error Settings := do
  let maxAutoSteps ← number lookup "ENGINE_MAX_AUTO_STEPS" (Nat.pow 2 64 - 1) 25
  let historyLimit ← number lookup "ENGINE_HISTORY_LIMIT" (Nat.pow 2 64 - 1) 50
  let actionTimeoutSeconds ← number lookup "ACTION_TIMEOUT_SECS" (Nat.pow 2 64 - 1) 10
  let kind ← databaseKind lookup
  let maxConnections ← number lookup "DATABASE_MAX_CONNECTIONS" (Nat.pow 2 32 - 1) 5
  let settings : Settings := {
    limits := { maxAutoSteps, historyLimit }
    actionTimeoutSeconds
    autoStart := set? lookup "AUTO_START_WORKFLOW"
    workflowsDirectory := (set? lookup "WORKFLOWS_DIR").getD "workflows"
    localesDirectory := (set? lookup "LOCALES_DIR").getD "locales"
    defaultLocale := (set? lookup "DEFAULT_LOCALE").getD "fr"
    words := {
      back := commandWords lookup "BACK_COMMANDS" ["retour", "back"]
      cancel := commandWords lookup "CANCEL_COMMANDS" ["annuler", "cancel"]
      restart := commandWords lookup "RESTART_COMMANDS" ["recommencer", "restart"] }
    database := {
      kind
      path := some ((set? lookup "SQLITE_PATH").getD "data/sessions.db")
      maxConnections }
    gatewayUrl := set? lookup "VERIFICATION_BASE_URL"
    gatewayToken := set? lookup "VERIFICATION_AUTH_TOKEN" }
  settings.validate
  .ok settings

def actionTimeoutMillis (s : Settings) : Nat := s.actionTimeoutSeconds * 1000

def toValue (s : Settings) : Value :=
  .object [
    ("commands", s.words.toValue),
    ("content", .object [("default_locale", .text s.defaultLocale),
      ("locales_dir", .text s.localesDirectory), ("workflows_dir", .text s.workflowsDirectory)]),
    ("database", s.database.toValue),
    ("engine", .object [("action_timeout_secs", .number (.integer s.actionTimeoutSeconds)),
      ("auto_start_workflow", (s.autoStart.map Value.text).getD .null),
      ("history_limit", .number (.integer s.limits.historyLimit)),
      ("max_auto_steps", .number (.integer s.limits.maxAutoSteps))]),
    ("verification", .object (match s.gatewayUrl with
      | some url => [("base_url", .text url)]
      | none => []))]

def optionalLog : Option String → String
  | some s => "Some(" ++ Text.escaped s ++ ")"
  | none => "None"

def gatewayLog (s : Settings) : String :=
  "VerificationConfig \x7b base_url: " ++ optionalLog s.gatewayUrl ++ ", auth_token: " ++
    optionalLog (s.gatewayToken.map fun _ => "<redacted>") ++ " \x7d"

end Settings

end Dialogue
